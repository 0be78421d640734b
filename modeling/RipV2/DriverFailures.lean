import RipV2.HeardEntries
import RipV2.KernelRoutes

/-!
Drivers that may refuse any call. A refused delete leaves kernel and database as
they were; a refused add comes after the route is in the database.
-/

namespace RipV2.DriverFailures

open RipV2.Database
open RipV2.Deamon
open RipV2.Deamon.RipDeamon
open RipV2.DeamonRuns
open RipV2.DeamonSimulation
open RipV2.DestinationSlots
open RipV2.EffectLogic
open RipV2.HeardEntries
open RipV2.HostEnvironment
open RipV2.KernelRoutes
open RipV2.Packets
open RipV2.PartialImages
open RipV2.ReachableRoutes
open RipV2.ResponseEntries
open RipV2.Results
open RipV2.RoutingTables
open RipV2.TransitionRuns

/-- A driver of a kernel whose RIP routes are `routes`. A call that fails leaves
them as they were. -/
class KernelDriver (Driver : Type) extends RoutingTableDriver Driver where
  routes : Driver → Finset RouteMessage
  addRoute_routes : ∀ (route : RipDbEntry) (driver : Driver),
    routes (finalState ((addRoute route).run driver)) =
      if succeeded ((addRoute route).run driver) then
        insert (buildRouteMessage route) (routes driver)
      else routes driver
  deleteRoute_routes : ∀ (route : RipDbEntry) (driver : Driver),
    routes (finalState ((deleteRoute route).run driver)) =
      if succeeded ((deleteRoute route).run driver) then
        (routes driver).erase (buildRouteMessage route)
      else routes driver

/-- The calls that an entry asks for. -/
def Verdict.calls (entry : RipEntry) (ifInfo : RipIfInfo) : Verdict → List DriverCall
  | .ignore => []
  | .refresh _ => []
  | .learn => [.add (learnedRoute entry ifInfo)]
  | .update oldRoute => [.delete oldRoute, .add (learnedRoute entry ifInfo)]
  | .switch oldRoute => [.delete oldRoute, .add (learnedRoute entry ifInfo)]
  | .poison oldRoute => [.delete oldRoute]

/-- The calls that the entries of a response ask for, one entry after the other.
A conflict ends them. -/
def callsFor (ifInfo : RipIfInfo) : List RipEntry → (RipRouteKey → Slot) → List DriverCall
  | [], _ => []
  | entry :: entries, slots =>
      let s := slots (buildRouteKey entry)
      Verdict.calls entry ifInfo (verdict s.active entry ifInfo) ++
        if s.conflict entry ifInfo then []
        else callsFor ifInfo entries
          (Function.update slots (buildRouteKey entry) (s.hear 0 entry ifInfo))

section Calls

variable {Driver : Type} [RoutingTableDriver Driver]

/-- The first of the calls that the driver refuses. -/
def firstRefused : List DriverCall → Driver → Option DriverCall
  | [], _ => none
  | call :: calls, driver =>
      if succeeded (call.issue.run driver) then
        firstRefused calls (finalState (call.issue.run driver))
      else some call

/-- The driver after the calls, each of which it may have refused. -/
def driverAfter : List DriverCall → Driver → Driver
  | [], driver => driver
  | call :: calls, driver => driverAfter calls (finalState (call.issue.run driver))

theorem firstRefused_append (calls calls' : List DriverCall) (driver : Driver) :
    firstRefused (calls ++ calls') driver =
      match firstRefused calls driver with
      | some call => some call
      | none => firstRefused calls' (driverAfter calls driver) := by
  induction calls generalizing driver with
  | nil => rfl
  | cons call calls ih =>
      rw [List.cons_append, firstRefused, firstRefused, driverAfter]
      split_ifs with hsucceeds
      · exact ih _
      · rfl

def perform : DriverCall → DeamonM Driver Unit
  | .add route => addRoute route
  | .delete route => deleteRoute route

theorem perform_cases (call : DriverCall) (deamon : RipDeamon Driver) :
    (∃ driver, call.issue.run deamon.routingTable.driver = .ok () driver ∧
      (perform call).run deamon = .ok () { deamon with routingTable := { driver } }) ∨
    ∃ e driver, call.issue.run deamon.routingTable.driver = .error e driver ∧
      (perform call).run deamon = .error e { deamon with routingTable := { driver } } := by
  cases call with
  | add route => exact addRoute_cases route deamon
  | delete route => exact deleteRoute_cases route deamon

theorem firstRefused_of_ok {call : DriverCall} {calls : List DriverCall} {driver driver' : Driver}
    (h : call.issue.run driver = .ok () driver') :
    firstRefused (call :: calls) driver = firstRefused calls driver' ∧
      driverAfter (call :: calls) driver = driverAfter calls driver' := by
  rw [firstRefused, driverAfter, h]
  exact ⟨rfl, rfl⟩

theorem firstRefused_of_error {call : DriverCall} {calls : List DriverCall}
    {driver driver' : Driver} {e : RipError} (h : call.issue.run driver = .error e driver') :
    firstRefused (call :: calls) driver = some call := by
  rw [firstRefused, h]
  rfl

end Calls

theorem callsFor_similar (ifInfo : RipIfInfo) (entries : List RipEntry)
    {slots slots' : RipRouteKey → Slot} (h : ∀ key, HeardEntries.Similar (slots key) (slots' key)) :
    callsFor ifInfo entries slots = callsFor ifInfo entries slots' := by
  induction entries generalizing slots slots' with
  | nil => rfl
  | cons entry entries ih =>
      have hslot := h (buildRouteKey entry)
      rw [callsFor, callsFor, hslot.active, conflict_similar entry ifInfo _ _ hslot]
      split_ifs
      · rfl
      · congr 1
        apply ih
        intro key
        rw [Function.update_apply, Function.update_apply]
        split_ifs
        · exact hslot.hear 0 0 entry ifInfo
        · exact h key

variable {Driver : Type} [KernelDriver Driver]

/-- The RIP routes in the kernel of the daemon's driver. -/
def kernelRoutes (deamon : RipDeamon Driver) : Finset RouteMessage :=
  KernelDriver.routes deamon.routingTable.driver

/-- The kernel's routes are those that the database holds to be in it. -/
def KernelAgrees (deamon : RipDeamon Driver) : Prop :=
  kernelRoutes deamon =
    (deamon.database.getRoutesInRoutingTable.map buildRouteMessage).toFinset

/-- The kernel has what the database holds to be in the routing table, and nothing else. -/
def Agrees (deamon : RipDeamon Driver) : Prop :=
  Images (messages deamon.database) (kernelRoutes deamon)

theorem kernelAgrees_iff {deamon : RipDeamon Driver}
    (hwell : ∀ key, WellFormed key (slot deamon.database key)) :
    KernelAgrees deamon ↔ Agrees deamon := by
  rw [KernelAgrees, Agrees, Finset.ext_iff, Images]
  simp only [List.mem_toFinset, mem_getRoutesInRoutingTable_iff hwell]

/-- What a call that is taken makes of the kernel's routes. -/
def callEffect : DriverCall → Finset RouteMessage → Finset RouteMessage
  | .add route, routes => insert (buildRouteMessage route) routes
  | .delete route, routes => routes.erase (buildRouteMessage route)

theorem issue_ok_routes {call : DriverCall} {driver driver' : Driver}
    (h : call.issue.run driver = .ok () driver') :
    KernelDriver.routes driver' = callEffect call (KernelDriver.routes driver) := by
  cases call with
  | add route =>
      have hroutes := KernelDriver.addRoute_routes route driver
      rw [show (RoutingTableDriver.addRoute route).run driver = _ from h] at hroutes
      exact hroutes
  | delete route =>
      have hroutes := KernelDriver.deleteRoute_routes route driver
      rw [show (RoutingTableDriver.deleteRoute route).run driver = _ from h] at hroutes
      exact hroutes

theorem issue_error_routes {call : DriverCall} {driver driver' : Driver} {e : RipError}
    (h : call.issue.run driver = .error e driver') :
    KernelDriver.routes driver' = KernelDriver.routes driver := by
  cases call with
  | add route =>
      have hroutes := KernelDriver.addRoute_routes route driver
      rw [show (RoutingTableDriver.addRoute route).run driver = _ from h] at hroutes
      exact hroutes
  | delete route =>
      have hroutes := KernelDriver.deleteRoute_routes route driver
      rw [show (RoutingTableDriver.deleteRoute route).run driver = _ from h] at hroutes
      exact hroutes

/-- What a handler that asks for `calls` comes to, when a conflict or a refusal
can end it. -/
def Answered (calls : List DriverCall) (conflict : Bool) (deamon : RipDeamon Driver)
    (res : EStateM.Result RipError (RipDeamon Driver) Unit) : Prop :=
  match firstRefused calls deamon.routingTable.driver with
  | some (.add _) => succeeded res = false ∧ ¬Agrees (finalState res)
  | some (.delete _) => succeeded res = false ∧ Agrees (finalState res)
  | none => succeeded res = !conflict ∧ Agrees (finalState res) ∧
      (finalState res).routingTable.driver = driverAfter calls deamon.routingTable.driver

theorem addRoute_answered {database : RipDatabase} {entry : RipEntry} {ifInfo : RipIfInfo}
    (hwell : ∀ key, WellFormed key (slot database key))
    (hlearned : ActiveRoute (buildRouteKey entry) (learnedRoute entry ifInfo))
    (deamon : RipDeamon Driver)
    (hmessages : messages deamon.database = Function.update (messages database)
      (buildRouteKey entry) (some (buildRouteMessage (learnedRoute entry ifInfo))))
    (himages : Images (Function.update (messages database) (buildRouteKey entry) none)
      (kernelRoutes deamon)) :
    Answered [.add (learnedRoute entry ifInfo)] false deamon
      ((addRoute (learnedRoute entry ifInfo)).run deamon) := by
  rw [Answered]
  rcases perform_cases (.add (learnedRoute entry ifInfo)) deamon with
    ⟨driver, hissue, hrun⟩ | ⟨e, driver, hissue, hrun⟩
  · change (addRoute (learnedRoute entry ifInfo)).run deamon = _ at hrun
    rw [(firstRefused_of_ok hissue).1, (firstRefused_of_ok hissue).2, hrun]
    refine ⟨rfl, ?_, rfl⟩
    have hadded := himages.insert (buildRouteMessage (learnedRoute entry ifInfo))
      (Function.update_self _ _ _)
    rw [Function.update_idem, ← hmessages] at hadded
    rw [Agrees, kernelRoutes, finalState_ok, issue_ok_routes hissue]
    exact hadded
  · change (addRoute (learnedRoute entry ifInfo)).run deamon = _ at hrun
    rw [firstRefused_of_error hissue, hrun]
    refine ⟨rfl, fun hagrees => ?_⟩
    rw [Agrees, kernelRoutes, finalState_error, issue_error_routes hissue, hmessages] at hagrees
    have hkernel := (hagrees _).mpr ⟨buildRouteKey entry, Function.update_self _ _ _⟩
    obtain ⟨key, hkey⟩ := (himages _).mp hkernel
    obtain rfl := learned_message_free hwell hlearned hkey ⟨rfl, rfl⟩
    simp at hkey

/-- A refused delete leaves everything as it is; the rest is `addRoute`. -/
theorem swap_answered (deamon : RipDeamon Driver) {oldRoute : RipDbEntry} (route : RipDbEntry)
    {entry : RipEntry} {ifInfo : RipIfInfo}
    (hwell : ∀ key, WellFormed key (slot deamon.database key)) (hagrees : Agrees deamon)
    (hlearned : ActiveRoute (buildRouteKey entry) (learnedRoute entry ifInfo))
    (hactive : deamon.database.okRoutes.lookup (buildRouteKey entry) = some route)
    (hmessage : buildRouteMessage route = buildRouteMessage oldRoute) :
    Answered [.delete oldRoute, .add (learnedRoute entry ifInfo)] false deamon
      ((swap oldRoute entry ifInfo).run deamon) := by
  rw [Answered, swap, EStateM.run_bind]
  rcases perform_cases (.delete oldRoute) deamon with
    ⟨driver, hissue, hrun⟩ | ⟨e, driver, hissue, hrun⟩
  · change (deleteRoute oldRoute).run deamon = _ at hrun
    rw [(firstRefused_of_ok hissue).1, (firstRefused_of_ok hissue).2, hrun]
    simp only [modifyDatabase, EStateM.run_bind, EStateM.run_modify]
    refine addRoute_answered hwell hlearned { deamon with
      routingTable := { driver }, database := replace entry ifInfo deamon.database }
      (messages_replace entry ifInfo) ?_
    obtain ⟨hown, hother⟩ := message_of_active hwell hactive
    rw [kernelRoutes, issue_ok_routes hissue, callEffect, ← hmessage]
    exact hagrees.erase hown hother
  · change (deleteRoute oldRoute).run deamon = _ at hrun
    rw [firstRefused_of_error hissue, hrun]
    refine ⟨rfl, ?_⟩
    rw [Agrees, kernelRoutes, finalState_error, issue_error_routes hissue]
    exact hagrees

/-- The delete comes before the move, which agrees even where it conflicts. -/
theorem expireRoute_answered {deamon : RipDeamon Driver} {oldRoute route : RipDbEntry}
    (hwell : ∀ key, WellFormed key (slot deamon.database key)) (hagrees : Agrees deamon)
    (hactive : deamon.database.okRoutes.lookup (buildRouteKey oldRoute.ripEntry) = some route)
    (hmessage : buildRouteMessage route = buildRouteMessage oldRoute) :
    Answered [.delete oldRoute]
      (slot deamon.database (buildRouteKey oldRoute.ripEntry)).garbage.isSome deamon
      ((expireRoute oldRoute).run deamon) := by
  rw [Answered, expireRoute, EStateM.run_bind]
  rcases perform_cases (.delete oldRoute) deamon with
    ⟨driver, hissue, hrun⟩ | ⟨e, driver, hissue, hrun⟩
  · change (deleteRoute oldRoute).run deamon = _ at hrun
    rw [(firstRefused_of_ok hissue).1, (firstRefused_of_ok hissue).2, hrun]
    simp only [onHost, onDatabase, EStateM.run_bind, run_zoom, run_instantNow]
    have hmove := moveRouteToGarbage_run deamon.host.answers.instants.head hactive
    have himages : Images (messages (toGarbage (buildRouteKey oldRoute.ripEntry) route
        deamon.host.answers.instants.head deamon.database)) (KernelDriver.routes driver) := by
      obtain ⟨hown, hother⟩ := message_of_active hwell hactive
      rw [messages_toGarbage, issue_ok_routes hissue, callEffect, ← hmessage]
      exact hagrees.erase hown hother
    cases hmoved : (RipDatabase.moveRouteToGarbage oldRoute.ripEntry
        deamon.host.answers.instants.head).run deamon.database with
    | ok moved database =>
        rw [hmoved] at hmove
        obtain ⟨rfl, hsucceeds⟩ := hmove
        exact ⟨hsucceeds.trans (Option.not_isSome _).symm, himages, rfl⟩
    | error e database =>
        rw [hmoved] at hmove
        obtain ⟨rfl, hsucceeds⟩ := hmove
        exact ⟨hsucceeds.trans (Option.not_isSome _).symm, himages, rfl⟩
  · change (deleteRoute oldRoute).run deamon = _ at hrun
    rw [firstRefused_of_error hissue, hrun]
    refine ⟨rfl, ?_⟩
    rw [Agrees, kernelRoutes, finalState_error, issue_error_routes hissue]
    exact hagrees

theorem updateRouteFromResponse_answered {deamon : RipDeamon Driver} (event : DeamonEvent)
    {entry : RipEntry} {ifInfo : RipIfInfo}
    (hwell : ∀ key, WellFormed key (slot deamon.database key)) (hagrees : Agrees deamon)
    (hentry : FromPacket event (buildRouteKey entry) entry ifInfo) :
    let s := slot deamon.database (buildRouteKey entry)
    Answered (Verdict.calls entry ifInfo (verdict s.active entry ifInfo))
      (s.conflict entry ifInfo) deamon ((updateRouteFromResponse entry ifInfo).run deamon) := by
  have hkeys := keysMatch_of_wellFormed hwell
  intro s
  have hslot : s.active = deamon.database.getRoute entry := rfl
  rw [Slot.conflict]
  cases hverdict : verdict s.active entry ifInfo with
  | ignore =>
      rw [updateRouteFromResponse_ignore hverdict]
      exact ⟨rfl, hagrees, rfl⟩
  | refresh oldRoute =>
      rw [updateRouteFromResponse_refresh hverdict]
      refine ⟨rfl, ?_, rfl⟩
      rw [Agrees, finalState_ok, messages_refreshRouteTimeout]
      exact hagrees
  | learn =>
      obtain ⟨hnone, hmetric⟩ := verdict_learn hverdict
      rw [updateRouteFromResponse_learn hverdict]
      refine addRoute_answered hwell (learnedRoute_activeRoute hentry hmetric)
        { deamon with database := learn entry ifInfo deamon.database }
        (messages_learn entry ifInfo) ?_
      rw [update_messages_none hnone]
      exact hagrees
  | update oldRoute =>
      obtain ⟨hroute, hmetric, -⟩ := verdict_update hverdict
      rw [updateRouteFromResponse_update hkeys hverdict]
      refine swap_answered { deamon with
        database := deamon.database.refreshRouteTimeout entry } oldRoute.refreshed
        (refreshRouteTimeout_wellFormed entry hwell) ?_
        (learnedRoute_activeRoute hentry hmetric) (lookup_refreshRouteTimeout hroute) rfl
      rw [Agrees, messages_refreshRouteTimeout]
      exact hagrees
  | switch oldRoute =>
      obtain ⟨hroute, hmetric, -, -⟩ := verdict_switch hverdict
      rw [updateRouteFromResponse_switch hkeys hverdict]
      exact swap_answered deamon oldRoute hwell hagrees
        (learnedRoute_activeRoute hentry hmetric) hroute rfl
  | poison oldRoute =>
      obtain ⟨hroute, -, -⟩ := verdict_poison hverdict
      have hkey : buildRouteKey oldRoute.ripEntry = buildRouteKey entry := hkeys _ _ hroute
      rw [updateRouteFromResponse_poison hverdict]
      have hanswered := expireRoute_answered hwell hagrees (hkeys.lookup_eq hroute) rfl
      rw [hkey] at hanswered
      exact hanswered

def isAdd : DriverCall → Bool
  | .add _ => true
  | .delete _ => false

/-- The first of the calls that the driver refuses is an add. -/
def addRefused (calls : List DriverCall) (driver : Driver) : Bool :=
  (firstRefused calls driver).any isAdd

theorem Answered.of_error {calls calls' : List DriverCall} {conflict : Bool} {e : RipError}
    {deamon deamon' : RipDeamon Driver} (h : Answered calls conflict deamon (.error e deamon')) :
    Agrees deamon' ↔
      addRefused (calls ++ if conflict then [] else calls') deamon.routingTable.driver = false := by
  rw [addRefused, firstRefused_append]
  rw [Answered] at h
  cases hrefused : firstRefused calls deamon.routingTable.driver with
  | none =>
      rw [hrefused] at h
      obtain ⟨hconflict, hagrees, -⟩ := h
      obtain rfl : conflict = true := by simpa using hconflict
      exact iff_of_true hagrees (by simp [firstRefused])
  | some call =>
      rw [hrefused] at h
      cases call with
      | add route => exact iff_of_false h.2 (by simp [isAdd])
      | delete route => exact iff_of_true h.2 rfl

theorem Answered.of_ok {calls : List DriverCall} {conflict : Bool}
    {deamon deamon' : RipDeamon Driver} (h : Answered calls conflict deamon (.ok () deamon')) :
    conflict = false ∧ Agrees deamon' ∧ ∀ calls',
      firstRefused (calls ++ calls') deamon.routingTable.driver =
        firstRefused calls' deamon'.routingTable.driver := by
  rw [Answered] at h
  cases hrefused : firstRefused calls deamon.routingTable.driver with
  | none =>
      rw [hrefused] at h
      obtain ⟨hconflict, hagrees, hdriver⟩ := h
      refine ⟨by simpa using hconflict, hagrees, fun calls' => ?_⟩
      rw [firstRefused_append, hrefused, ← hdriver, finalState_ok]
  | some call =>
      rw [hrefused] at h
      cases call with
      | add route => exact absurd h.1 (by simp)
      | delete route => exact absurd h.1 (by simp)

theorem Answered.agrees_of_delete {route : RipDbEntry} {conflict : Bool}
    {deamon : RipDeamon Driver} {res : EStateM.Result RipError (RipDeamon Driver) Unit}
    (h : Answered [.delete route] conflict deamon res) : Agrees (finalState res) := by
  rw [Answered] at h
  rcases perform_cases (.delete route) deamon with ⟨driver, hissue, -⟩ | ⟨e, driver, hissue, -⟩
  · rw [(firstRefused_of_ok hissue).1] at h
    exact h.2.1
  · rw [firstRefused_of_error hissue] at h
    exact h.2

theorem handleResponseEntries_agrees_iff {packet : RipPacket} (haccepted : accepted packet = true)
    {entries : List RipEntry} (hentries : ∀ raw ∈ entries, raw ∈ packet.data.entries)
    {deamon : RipDeamon Driver} (hwell : ∀ key, WellFormed key (slot deamon.database key))
    (hagrees : Agrees deamon) :
    Agrees (finalState ((entries.forM (handleResponseEntry packet)).run deamon)) ↔
      addRefused (callsFor packet.ifInfo
        (entries.filterMap fun raw => responseEntryToRoute raw packet) (slot deamon.database))
        deamon.routingTable.driver = false := by
  -- the slots are carried along by hearing the entries
  induction entries generalizing deamon with
  | nil => exact iff_of_true hagrees rfl
  | cons raw entries ih =>
      have hkeys := keysMatch_of_wellFormed hwell
      have hsimulated := handleResponseEntry_simulated deamon.host.answers haccepted
        (hentries raw (by simp)) hkeys
      simp only [List.forM_eq_forM, List.forM_cons, EStateM.run_bind, List.filterMap_cons]
      cases hentry : responseEntryToRoute raw packet with
      | none =>
          simp only [handleResponseEntry_of_none hentry, EStateM.run_pure]
          exact ih (fun raw' hmem => hentries raw' (by simp [hmem])) hwell hagrees
      | some entry =>
          have hanswered := updateRouteFromResponse_answered (.received packet) hwell hagrees
            ⟨rfl, packet, raw, rfl, haccepted, hentries raw (by simp), hentry, rfl⟩
          have hspec := updateRouteFromResponse_spec entry packet.ifInfo hkeys
          rw [handleResponseEntry_of_some hentry] at hsimulated ⊢
          simp only [callsFor]
          cases hrun : (updateRouteFromResponse entry packet.ifInfo).run deamon with
          | error e deamon₁ =>
              rw [hrun] at hanswered
              exact hanswered.of_error
          | ok a deamon₁ =>
              rw [hrun] at hanswered hsimulated hspec
              obtain ⟨hconflict, hagrees₁, hdriver⟩ := hanswered.of_ok
              have hslots : ∀ key, HeardEntries.Similar (slot deamon₁.database key)
                  (Function.update (slot deamon.database) (buildRouteKey entry)
                    ((slot deamon.database (buildRouteKey entry)).hear 0 entry packet.ifInfo)
                    key) := by
                intro key
                rcases hspec with ⟨⟨now, hheard⟩, -⟩ | ⟨-, hfails, -⟩
                · rw [finalState_ok] at hheard
                  rw [hheard key, Function.update_apply]
                  split_ifs with hkey
                  · rw [hkey]
                    exact (HeardEntries.Similar.refl _).hear now 0 entry packet.ifInfo
                  · exact .refl _
                · exact absurd hfails (by simp)
              rw [addRefused, hdriver, hconflict, if_neg (by simp),
                ← callsFor_similar packet.ifInfo _ hslots]
              exact ih (fun raw' hmem => hentries raw' (by simp [hmem]))
                (simulated_wellFormed hsimulated hwell) hagrees₁

theorem expireRoutes_agrees (answers : Answers) {routes : List RipDbEntry}
    (htimedOut : ∀ route ∈ routes, route.timedOut (routeTimeoutSecs answers) = true)
    {deamon : RipDeamon Driver} (hlisted : Listed deamon.database routes)
    (hwell : ∀ key, WellFormed key (slot deamon.database key)) (hagrees : Agrees deamon) :
    Agrees (finalState ((routes.forM expireRoute).run deamon)) := by
  induction routes generalizing deamon with
  | nil => exact hagrees
  | cons route routes ih =>
      have hactive := hlisted.2 route (by simp)
      have hanswered := expireRoute_answered hwell hagrees hactive rfl
      simp only [List.forM_eq_forM, List.forM_cons, EStateM.run_bind]
      cases hrun : (expireRoute route).run deamon with
      | error e deamon₁ =>
          rw [hrun] at hanswered
          exact hanswered.agrees_of_delete
      | ok a deamon₁ =>
          rw [hrun] at hanswered
          have hagrees₁ : Agrees deamon₁ := hanswered.agrees_of_delete
          obtain ⟨now, hdatabase, -, hlisted₁⟩ := hlisted.expired hrun
          have hwell₁ := toGarbage_wellFormed hwell (htimedOut route (by simp)) hactive now
          rw [← hdatabase] at hwell₁
          exact ih (fun other hmem => htimedOut other (by simp [hmem])) hlisted₁ hwell₁ hagrees₁

/-- Only a response asks for an add. -/
def refusesAdd (deamon : RipDeamon Driver) : DeamonEvent → Bool
  | .received packet => accepted packet && addRefused (callsFor packet.ifInfo
      (packet.data.entries.filterMap fun raw => responseEntryToRoute raw packet)
      (slot deamon.database)) deamon.routingTable.driver
  | _ => false

theorem handle_agrees_iff {event : DeamonEvent} {deamon : RipDeamon Driver}
    (hwell : ∀ key, WellFormed key (slot deamon.database key)) (hagrees : Agrees deamon) :
    Agrees (finalState (event.handle.run deamon)) ↔ refusesAdd deamon event = false := by
  by_cases hevent : MovesRoutes event
  · cases event with
    | received packet =>
        rw [DeamonEvent.handle, handlePacket_run_of_accepted hevent, refusesAdd, hevent,
          Bool.true_and]
        exact handleResponseEntries_agrees_iff hevent (fun _ hraw => hraw) hwell hagrees
    | routeTimeoutTick timer =>
        refine iff_of_true ?_ rfl
        have hcounted := simulated_wellFormed (timeoutCheck_simulated timer true deamon) hwell
        have hexpired : Agrees (finalState (((timeoutCheck deamon).1.forM expireRoute).run
            { deamon with database := (timeoutCheck deamon).2 })) := by
          apply expireRoutes_agrees deamon.host.answers _ _ hcounted
          · rw [Agrees, messages_timeoutCheck]
            exact hagrees
          · exact fun route hmem => (List.mem_filter.mp hmem).2
          · exact listed_timedOutRoutes (keysMatch_of_wellFormed hcounted) _
        simp only [DeamonEvent.handle, finalState_discard, handleRouteTimeoutTick_run]
        cases hrun : ((timeoutCheck deamon).1.forM expireRoute).run
            { deamon with database := (timeoutCheck deamon).2 } <;>
          (rw [hrun] at hexpired; exact hexpired)
    | _ => exact absurd hevent id
  · obtain ⟨hmessages, htable⟩ := handle_unrouted hevent deamon
    refine iff_of_true ?_ ?_
    · rw [Agrees, kernelRoutes, hmessages, htable]
      exact hagrees
    · cases event with
      | received packet => rw [refusesAdd, Bool.not_eq_true _ |>.mp hevent, Bool.false_and]
      | _ => rfl

theorem refusesAdd_resumes {deamon deamon₀ : RipDeamon Driver} {answers : Answers}
    (hresumes : Resumes answers deamon deamon₀) (event : DeamonEvent) :
    refusesAdd deamon₀ event = refusesAdd deamon event := by
  obtain ⟨database, hreordered, rfl⟩ := hresumes
  have hslots : slot database = slot deamon.database := by
    funext key
    exact slot_reordered hreordered key
  cases event with
  | received packet => simp only [refusesAdd, hslots]
  | _ => rfl

theorem attempted_agrees_iff {deamon deamon' : RipDeamon Driver} {label : Answers × DeamonEvent}
    (hwell : ∀ key, WellFormed key (slot deamon.database key)) (hagrees : Agrees deamon)
    (hstep : Attempted deamon label deamon') :
    Agrees deamon' ↔ refusesAdd deamon label.2 = false := by
  obtain ⟨res, ⟨deamon₀, hresumes, rfl⟩, rfl⟩ := hstep
  rw [← refusesAdd_resumes hresumes]
  obtain ⟨database, hreordered, rfl⟩ := hresumes
  apply handle_agrees_iff
  · intro key
    rw [slot_reordered hreordered key]
    exact hwell key
  · rw [Agrees, messages_reordered hreordered]
    exact hagrees

/-- A step at which the driver refuses no add, unless it refused a delete before. -/
def AddsTaken (deamon : RipDeamon Driver) (label : Answers × DeamonEvent)
    (deamon' : RipDeamon Driver) : Prop :=
  Attempted deamon label deamon' ∧ refusesAdd deamon label.2 = false

theorem run_agrees {deamon₀ deamon deamon' : RipDeamon Driver}
    {labels labels' : List (Answers × DeamonEvent)} (hinitial : Initial deamon₀)
    (hreached : Run Attempted deamon₀ labels deamon) (hagrees : Agrees deamon)
    (hrun : Run AddsTaken deamon labels' deamon') : Agrees deamon' := by
  induction hrun with
  | nil => exact hagrees
  | snoc hrest hstep ih =>
      have hwell := run_wellFormed hinitial
        (hreached.append (hrest.mono fun _ _ _ _ h => h.1))
      exact (attempted_agrees_iff hwell ih hstep.1).mpr hstep.2

theorem firstRefused_of_neverFails (hdriver : NeverFails Driver) (calls : List DriverCall)
    (driver : Driver) : firstRefused calls driver = none := by
  induction calls generalizing driver with
  | nil => rfl
  | cons call calls ih =>
      have hsucceeds : succeeded (call.issue.run driver) = true := by
        cases call with
        | add route => exact hdriver.addRoute route driver
        | delete route => exact hdriver.deleteRoute route driver
      rw [firstRefused, if_pos hsucceeds, ih]

theorem run_agrees_of_neverFails (hdriver : NeverFails Driver) {deamon₀ deamon : RipDeamon Driver}
    {labels : List (Answers × DeamonEvent)} (hinitial : Initial deamon₀)
    (hkernel : kernelRoutes deamon₀ = ∅) (hrun : Run Attempted deamon₀ labels deamon) :
    Agrees deamon := by
  have hagrees : Agrees deamon₀ := by
    rw [Agrees, hkernel, Images]
    intro message
    simp [messages, message?, hinitial.1]
  refine run_agrees hinitial .nil hagrees (hrun.mono fun label _ t u hstep => ⟨hstep, ?_⟩)
  cases label.2 with
  | received packet => simp [refusesAdd, addRefused, firstRefused_of_neverFails hdriver]
  | _ => rfl

/-- From a reachable state in which kernel and database agree, they agree after
an event, whatever its outcome, unless the first call that the driver refuses is
an add; and so along every run. -/
theorem run_kernelAgrees {deamon₀ deamon : RipDeamon Driver}
    {labels : List (Answers × DeamonEvent)} (hinitial : Initial deamon₀)
    (hreached : Run Attempted deamon₀ labels deamon) (hagrees : KernelAgrees deamon) :
    (∀ label deamon', Attempted deamon label deamon' →
      (KernelAgrees deamon' ↔ refusesAdd deamon label.2 = false)) ∧
    ∀ labels' deamon', Run AddsTaken deamon labels' deamon' → KernelAgrees deamon' := by
  have hwell := run_wellFormed hinitial hreached
  rw [kernelAgrees_iff hwell] at hagrees
  constructor
  · intro label deamon' hstep
    rw [kernelAgrees_iff (run_wellFormed hinitial (.snoc hreached hstep))]
    exact attempted_agrees_iff hwell hagrees hstep
  · intro labels' deamon' hrun
    have hreached' := hreached.append (hrun.mono fun _ _ _ _ h => h.1)
    rw [kernelAgrees_iff (run_wellFormed hinitial hreached')]
    exact run_agrees hinitial hreached hagrees hrun

/-- A kernel that takes every call. -/
structure WillingKernel where
  routes : Finset RouteMessage

instance : KernelDriver WillingKernel where
  addRoute route := modify fun kernel =>
    { routes := insert (buildRouteMessage route) kernel.routes }
  deleteRoute route := modify fun kernel =>
    { routes := kernel.routes.erase (buildRouteMessage route) }
  routes := WillingKernel.routes
  addRoute_routes _ _ := rfl
  deleteRoute_routes _ _ := rfl

theorem willingKernel_neverFails : NeverFails WillingKernel :=
  ⟨fun _ _ => rfl, fun _ _ => rfl⟩

def willingDeamon : RipDeamon WillingKernel :=
  RipDeamon.new { routes := ∅ } { answers := Answers.steady 0 [], sent := [] }

/-- A kernel that refuses some of the calls to come. -/
structure RefusingKernel where
  routes : Finset RouteMessage
  refusals : List Bool

def RefusingKernel.answer (f : Finset RouteMessage → Finset RouteMessage) :
    EStateM RipError RefusingKernel Unit := fun kernel =>
  if kernel.refusals.head? = some true then
    .error (.ioError "Operation not permitted (os error 1)")
      { kernel with refusals := kernel.refusals.tail }
  else .ok () { routes := f kernel.routes, refusals := kernel.refusals.tail }

theorem RefusingKernel.answer_routes (f : Finset RouteMessage → Finset RouteMessage)
    (kernel : RefusingKernel) :
    (finalState ((answer f).run kernel)).routes =
      if succeeded ((answer f).run kernel) then f kernel.routes else kernel.routes := by
  simp only [EStateM.run, answer]
  by_cases hrefused : kernel.refusals.head? = some true
  · simp [hrefused]
  · simp [hrefused]

instance : KernelDriver RefusingKernel where
  addRoute route := RefusingKernel.answer (insert (buildRouteMessage route))
  deleteRoute route := RefusingKernel.answer fun routes => routes.erase (buildRouteMessage route)
  routes := RefusingKernel.routes
  addRoute_routes _ kernel := RefusingKernel.answer_routes _ kernel
  deleteRoute_routes _ kernel := RefusingKernel.answer_routes _ kernel

def refusingDeamon (refusals : List Bool) : RipDeamon RefusingKernel :=
  RipDeamon.new { routes := ∅, refusals } { answers := Answers.steady 0 [], sent := [] }

theorem refused_delete_agrees :
    ∃ deamon' deamon'', Run Step (refusingDeamon [false, true]) [announcement] deamon' ∧
      KernelAgrees deamon' ∧ (∃ e, Outcome deamon' withdrawal (.error e deamon'')) ∧
      KernelAgrees deamon'' := by
  have hany : (runEvents (refusingDeamon [false, true]) [announcement]).any (fun deamon =>
      !refusesAdd deamon withdrawal.2 && error? (withdrawal.2.handle.run
        { deamon with host := deamon.host.renew steady }) ==
          some (.ioError "Operation not permitted (os error 1)")) = true := by decide +kernel
  obtain ⟨deamon', hevents, hend⟩ := (Option.any_eq_true _ _).mp hany
  rw [Bool.and_eq_true, Bool.not_eq_true'] at hend
  obtain ⟨hrefuses, herror⟩ := hend
  obtain ⟨deamon'', hfails⟩ := error?_eq_some (beq_iff_eq.mp herror)
  have hstep := runEvents_single hevents
  have houtcome : Outcome deamon' withdrawal (.error _ deamon'') :=
    ⟨_, ⟨deamon'.database, .refl _, rfl⟩, hfails⟩
  have hstart : KernelAgrees (refusingDeamon [false, true]) := rfl
  have hagrees : KernelAgrees deamon' :=
    ((run_kernelAgrees ⟨rfl, rfl⟩ .nil hstart).1 announcement deamon'
      (attempted_of_step hstep)).mpr (by decide +kernel)
  refine ⟨deamon', deamon'', .single hstep, hagrees, ⟨_, houtcome⟩, ?_⟩
  exact ((run_kernelAgrees ⟨rfl, rfl⟩ (.single (attempted_of_step hstep)) hagrees).1
    withdrawal deamon'' ⟨_, houtcome, rfl⟩).mpr hrefuses

/-- The driver refuses to add a network: the database holds it to be in the kernel. -/
theorem refused_add_disagrees :
    ∃ e deamon', KernelAgrees (refusingDeamon [true]) ∧
      Outcome (refusingDeamon [true]) announcement (.error e deamon') ∧
      ¬KernelAgrees deamon' := by
  have hfails : error? (announcement.2.handle.run
      { refusingDeamon [true] with host := (refusingDeamon [true]).host.renew steady }) =
      some (.ioError "Operation not permitted (os error 1)") := by decide +kernel
  obtain ⟨deamon', hrun⟩ := error?_eq_some hfails
  have houtcome : Outcome (refusingDeamon [true]) announcement (.error _ deamon') :=
    ⟨_, ⟨_, .refl _, rfl⟩, hrun⟩
  have hattempted : Attempted (refusingDeamon [true]) announcement deamon' := ⟨_, houtcome, rfl⟩
  have hagrees : Agrees (refusingDeamon [true]) :=
    (kernelAgrees_iff fun key => wellFormed_new key).mp rfl
  refine ⟨_, deamon', rfl, houtcome, ?_⟩
  rw [kernelAgrees_iff (run_wellFormed ⟨rfl, rfl⟩ (.single hattempted)),
    attempted_agrees_iff (fun key => wellFormed_new key) hagrees hattempted]
  decide +kernel

end RipV2.DriverFailures
