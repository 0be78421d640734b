import RipV2.AdminProtocol
import RipV2.ProtectedLocalRoutes

namespace RipV2.AdminConsistency

open RipV2.AdminInterface
open RipV2.AdminProtocol
open RipV2.Channels
open RipV2.Database
open RipV2.Deamon
open RipV2.Deamon.RipDeamon
open RipV2.DeamonLoop
open RipV2.DeamonLoop.EventLoop
open RipV2.DeamonRuns
open RipV2.DeamonSimulation
open RipV2.DestinationSlots
open RipV2.EffectLogic
open RipV2.HashMapModel
open RipV2.HostEnvironment
open RipV2.KernelRoutes
open RipV2.LocalRoutes
open RipV2.LoopEvaluation
open RipV2.LoopPasses
open RipV2.ProtectedLocalRoutes
open RipV2.ReachableRoutes
open RipV2.Results
open RipV2.RoutingTables
open RipV2.TransitionRuns

variable {Client Driver : Type} [DecidableEq Client] [RoutingTableDriver Driver]

/-- A response from 0.0.0.0 that names the destination reaches the loop. -/
def Claims (key : RipRouteKey) (label : AdminLabel Client) : Prop :=
  ∃ answers packet, label = .pass (answers, .received (some packet)) ∧
    ClaimsLocalRoute key (.received packet)

/-- The daemon has the route at its destination, and its tables are in order. -/
structure Keeps (key : RipRouteKey) (route : RipDbEntry) (deamon : RipDeamon Driver) : Prop where
  wellFormed : ∀ key, WellFormed key (slot deamon.database key)
  holds : Holds route (slot deamon.database key)

section Keeping

variable {key : RipRouteKey} {route : RipDbEntry}

omit [DecidableEq Client] [RoutingTableDriver Driver] in
theorem Keeps.resumes {answers : Answers} {deamon deamon' : RipDeamon Driver}
    (hresumes : Resumes answers deamon deamon') (h : Keeps key route deamon) :
    Keeps key route deamon' := by
  obtain ⟨database, hreordered, rfl⟩ := hresumes
  constructor
  · intro key'
    rw [slot_reordered hreordered key']
    exact h.wellFormed key'
  · rw [slot_reordered hreordered key]
    exact h.holds

omit [DecidableEq Client] [RoutingTableDriver Driver] in
theorem Keeps.hostOnly {deamon deamon' : RipDeamon Driver} (hhost : HostOnly deamon deamon')
    (h : Keeps key route deamon) : Keeps key route deamon' := by
  obtain ⟨hwell, hholds⟩ := h
  rw [← hhost.database] at hwell hholds
  exact ⟨hwell, hholds⟩

theorem Keeps.handle {event : DeamonEvent} {deamon : RipDeamon Driver}
    (hlocal : route.isLocal = true) (hclaims : ¬ClaimsLocalRoute key event)
    (h : Keeps key route deamon) : Keeps key route (finalState (event.handle.run deamon)) :=
  ⟨simulated_wellFormed (handle_simulated event deamon (keysMatch_of_wellFormed h.wellFormed))
      h.wellFormed,
    handle_holds h.wellFormed hlocal h.holds hclaims⟩

theorem Keeps.pass {loop : EventLoop Driver} {label : Answers × LoopEvent}
    {res : EStateM.Result RipError (EventLoop Driver) Control} (hlocal : route.isLocal = true)
    (hclaims : ∀ packet, label.2 = .received (some packet) →
      ¬ClaimsLocalRoute key (.received packet))
    (hpass : Pass loop label res) (hgoes : ∀ loop', res ≠ .ok .stop loop')
    (h : Keeps key route loop.deamon) : Keeps key route (finalState res).deamon := by
  refine pass_keeps (fun _ _ _ hresumes h => h.resumes hresumes)
    (fun _ _ hwaited h => h.hostOnly hwaited.toHostOnly)
    (fun event deamon hevent h => h.handle hlocal ?_) hpass hgoes h
  rintro ⟨packet, raw, rfl, hclaimed⟩
  rcases hevent with hevent | hevent
  · refine hclaims packet ?_ ⟨packet, raw, rfl, hclaimed⟩
    cases hlabel : label.2 with
    | received packet' =>
        rw [hlabel] at hevent
        cases packet' with
        | none => simp [LoopEvent.deamonEvent] at hevent
        | some packet' =>
            rw [LoopEvent.deamonEvent, Option.some.injEq, DeamonEvent.received.injEq] at hevent
            rw [hevent]
    | httpRequest request =>
        rw [hlabel] at hevent
        cases request <;> simp [LoopEvent.deamonEvent] at hevent
    | _ =>
        rw [hlabel] at hevent
        simp [LoopEvent.deamonEvent] at hevent
  · simp at hevent

end Keeping

/-- The call has added the local route, which has this destination. -/
def Added (key : RipRouteKey) (entry : Served Client) (localRoute : LocalRoute) : Prop :=
  buildRouteKey localRoute.entry = key ∧ entry.after = adopt localRoute entry.before

/-- Whatever a call has added is there for the calls served later, and still is. -/
structure Consistent (key : RipRouteKey) (s : AdminSystem Client Driver) : Prop where
  wellFormed : ∀ loop, s.loop = some loop → ∀ key, WellFormed key (slot loop.deamon.database key)
  ordered : s.served.Pairwise fun earlier later => ∀ localRoute, Added key earlier localRoute →
    Holds (localRouteEntry localRoute) (slot later.before key)
  current : ∀ entry ∈ s.served, ∀ localRoute, Added key entry localRoute →
    ∀ loop, s.loop = some loop →
      Holds (localRouteEntry localRoute) (slot loop.deamon.database key)

variable {key : RipRouteKey} {s s' : AdminSystem Client Driver}

omit [DecidableEq Client] in
theorem pass_wellFormed {loop : EventLoop Driver} {label : Answers × LoopEvent}
    {res : EStateM.Result RipError (EventLoop Driver) Control} (hpass : Pass loop label res)
    (hgoes : ∀ loop', res ≠ .ok .stop loop')
    (h : ∀ key, WellFormed key (slot loop.deamon.database key)) (key : RipRouteKey) :
    WellFormed key (slot (finalState res).deamon.database key) := by
  refine pass_keeps (I := fun deamon => ∀ key, WellFormed key (slot deamon.database key))
    ?_ ?_ (fun event deamon _ h => ?_) hpass hgoes h key
  · rintro answers deamon deamon' ⟨database, hreordered, rfl⟩ h key'
    rw [slot_reordered hreordered key']
    exact h key'
  · intro deamon deamon' hhost h
    rwa [hhost.database]
  · exact simulated_wellFormed (handle_simulated event deamon (keysMatch_of_wellFormed h)) h

omit [DecidableEq Client] in
theorem Consistent.pass (h : Consistent key s) {loop : EventLoop Driver}
    {label : Answers × LoopEvent} {res : EStateM.Result RipError (EventLoop Driver) Control}
    (hloop : s.loop = some loop) (hpass : Pass loop label res)
    (hclaims : ∀ packet, label.2 = .received (some packet) →
      ¬ClaimsLocalRoute key (.received packet)) : Consistent key (s.afterPass res) := by
  refine ⟨fun loop' hloop' => ?_, ?_, fun entry hentry localRoute hadded loop' hloop' => ?_⟩
  · obtain rfl := loop_of_afterPass hloop'
    exact pass_wellFormed hpass (by simp) (h.wellFormed loop hloop)
  · rw [afterPass_served]
    exact h.ordered
  · rw [afterPass_served] at hentry
    obtain rfl := loop_of_afterPass hloop'
    have hkept : Keeps key (localRouteEntry localRoute) loop.deamon :=
      ⟨h.wellFormed loop hloop, h.current entry hentry localRoute hadded loop hloop⟩
    exact (hkept.pass rfl hclaims hpass (by simp)).holds

omit [DecidableEq Client] in
theorem keeps_added {loop : EventLoop Driver} {entry : Served Client}
    {res : EStateM.Result RipError (EventLoop Driver) Control} {localRoute : LocalRoute}
    (hserves : Serves loop entry res)
    (hwell : ∀ key, WellFormed key (slot loop.deamon.database key))
    (hadded : Added key entry localRoute) :
    Keeps key (localRouteEntry localRoute) (finalState res).deamon := by
  obtain ⟨deamon₀, deamon₁, database, -, ⟨database₀, hreordered₀, rfl⟩, -, hrun, hafter,
    hreordered, rfl⟩ := hserves
  obtain ⟨rfl, hadopted⟩ := hadded
  have hwell₀ : ∀ key, WellFormed key (slot database₀ key) := by
    intro key'
    rw [slot_reordered hreordered₀ key']
    exact hwell key'
  have hhandled := simulated_wellFormed (handle_simulated (.httpRequest entry.request.kind)
    { loop.deamon with database := database₀, host := loop.deamon.host.renew entry.answers }
    (keysMatch_of_wellFormed hwell₀)) hwell₀
  simp only [DeamonEvent.handle, finalState_discard, hrun, finalState_ok] at hhandled
  have hkept : Keeps (buildRouteKey localRoute.entry) (localRouteEntry localRoute)
      ({ loop with deamon := deamon₁ } : EventLoop Driver).deamon := by
    refine ⟨hhandled, localRouteEntry localRoute, ?_, .refl _⟩
    rw [hafter, hadopted, slot_adopt, if_pos rfl]
  have hadvertise : ∀ deamon : RipDeamon Driver,
      Keeps (buildRouteKey localRoute.entry) (localRouteEntry localRoute) deamon →
      Keeps (buildRouteKey localRoute.entry) (localRouteEntry localRoute)
        (finalState ((DeamonEvent.advertise true).handle.run deamon)) := fun deamon h =>
    h.handle rfl (by rintro ⟨_, _, hevent, -⟩; cases hevent)
  rw [← hafter] at hreordered
  exact triggered_keeps (fun _ _ _ hresumes h => h.resumes hresumes)
    (fun _ _ hwaited h => h.hostOnly hwaited.toHostOnly) hadvertise hreordered hkept

theorem Consistent.serve (h : Consistent key s) {loop : EventLoop Driver}
    {requests : Channel (HttpRequest Client) 32} {entry : Served Client}
    {res : EStateM.Result RipError (EventLoop Driver) Control} (hloop : s.loop = some loop)
    (hserves : Serves loop entry res) :
    Consistent key ((s.serve requests entry).afterPass res) := by
  have hwell := h.wellFormed loop hloop
  obtain ⟨-, -, hserved⟩ := serve_shared s requests entry
  have hpass := pass_httpRequest_iff.mpr ⟨entry, rfl, rfl, hserves⟩
  refine ⟨fun loop' hloop' => ?_, ?_, fun entry' hentry localRoute hadded loop' hloop' => ?_⟩
  · obtain rfl := loop_of_afterPass hloop'
    exact pass_wellFormed hpass (by simp) hwell
  · rw [afterPass_served, hserved, List.pairwise_append]
    refine ⟨h.ordered, List.pairwise_singleton _ _, fun earlier hearlier later hlater => ?_⟩
    obtain rfl := List.mem_singleton.mp hlater
    intro localRoute hadded
    obtain ⟨deamon₀, -, -, -, hresumes, hbefore, -⟩ := hserves
    have hkept := Keeps.resumes hresumes
      ⟨hwell, h.current earlier hearlier localRoute hadded loop hloop⟩
    rw [← hbefore]
    exact hkept.holds
  · rw [afterPass_served, hserved] at hentry
    obtain rfl := loop_of_afterPass hloop'
    rcases List.mem_append.mp hentry with hold | hnew
    · have hkept : Keeps key (localRouteEntry localRoute) loop.deamon :=
        ⟨hwell, h.current entry' hold localRoute hadded loop hloop⟩
      exact (hkept.pass rfl (by simp) hpass (by simp)).holds
    · obtain rfl := List.mem_singleton.mp hnew
      exact (keeps_added hserves hwell hadded).holds

omit [DecidableEq Client] [RoutingTableDriver Driver] in
theorem Consistent.congr (h : Consistent key s) (hloop : s'.loop = s.loop)
    (hserved : s'.served = s.served) : Consistent key s' := by
  obtain ⟨hwell, hordered, hcurrent⟩ := h
  rw [← hserved] at hordered hcurrent
  rw [← hloop] at hwell hcurrent
  exact ⟨hwell, hordered, hcurrent⟩

theorem Consistent.step (h : Consistent key s) {label : AdminLabel Client}
    (hclaims : ¬Claims key label) (hstep : AdminStep s label s') : Consistent key s' := by
  cases hstep with
  | call | send | refuse | finish | hangUp | stopServing => exact h.congr rfl rfl
  | serve hloop hreceive hserves => exact h.serve hloop hserves
  | @pass loop label res hloop hpass hother =>
      refine h.pass hloop hpass fun packet hevent hclaimed => ?_
      refine hclaims ⟨label.1, packet, ?_, hclaimed⟩
      rw [← hevent]
  | closed hloop hdeserted hpass =>
      have hsame : Consistent key { s with receiver := false } := h.congr rfl rfl
      exact hsame.pass hloop hpass (by simp)

omit [DecidableEq Client] [RoutingTableDriver Driver] in
theorem consistent_of_initial (h : AdminInitial s) : Consistent key s := by
  obtain ⟨-, -, -, hserved, loop, hloop, hinitial⟩ := h
  refine ⟨fun loop' hloop' => ?_, ?_, ?_⟩
  · obtain rfl := Option.some.inj (hloop.symm.trans hloop')
    exact (loopInitial_keeps (I := fun database => ∀ key, WellFormed key (slot database key))
      wellFormed_new setupAdvertisedNetwork_wellFormed hinitial).1
  · rw [hserved]
    exact .nil
  · simp [hserved]

theorem step_served {label : AdminLabel Client} (hstep : AdminStep s label s') :
    s.served <+: s'.served := by
  cases hstep with
  | call | send | refuse | finish | hangUp | stopServing => exact List.prefix_refl _
  | serve hloop hreceive hserves =>
      rw [afterPass_served, (serve_shared s _ _).2.2]
      exact List.prefix_append _ _
  | pass | closed =>
      rw [afterPass_served]

theorem run_served {labels : List (AdminLabel Client)} (hrun : Run AdminStep s labels s') :
    s.served <+: s'.served :=
  hrun.keeps (I := fun s' => s.served <+: s'.served) (P := fun _ => True)
    (fun _ _ _ _ h hstep => h.trans (step_served hstep)) (by simp) (List.prefix_refl _)

theorem mem_fromDatabase {database : RipDatabase} {route : RipDbEntry}
    (h : database.okRoutes.lookup key = some route) :
    HttpRoute.fromDbEntry route "active" ∈ HttpRoute.fromDatabase database := by
  simp only [HttpRoute.fromDatabase, List.mem_mergeSort, List.mem_append]
  exact .inl (List.mem_map.mpr ⟨route, HashMap.mem_values_iff.mpr ⟨key, h⟩, rfl⟩)

/-- When a client has been told that its network was added, every list of routes that is
asked for afterwards shows it as an active local route, whatever else clients and
neighbours do meanwhile, but for responses from 0.0.0.0 that name it. -/
theorem listed_after_added {s₀ s₁ s₂ : AdminSystem Client Driver}
    {labels₁ labels₂ : List (AdminLabel Client)} {poster reader : Client}
    {payload : HttpAddLocalRouteRequest} {listed : List HttpRoute} (hinitial : AdminInitial s₀)
    (hrun₁ : Run AdminStep s₀ labels₁ s₁)
    (hposted : s₁.handlers poster = some (.finished (.addLocalRoute payload) (.status "ok")))
    (hnew : s₁.handlers reader = none) (hrun₂ : Run AdminStep s₁ labels₂ s₂)
    (hlisted : s₂.handlers reader = some (.finished .getRoutes (.routes listed)))
    (hclaims : ∀ label ∈ labels₁ ++ labels₂, ∀ answers localRoute,
      advertisedNetworkToLocalRoute answers payload.network = .ok localRoute →
        ¬Claims (buildRouteKey localRoute.entry) label) :
    ∃ answers localRoute route,
      advertisedNetworkToLocalRoute answers payload.network = .ok localRoute ∧
      SameRoute (localRouteEntry localRoute) route ∧
      HttpRoute.fromDbEntry route "active" ∈ listed := by
  have hanswered := run_finished hinitial hrun₁ hposted
  obtain ⟨added, hadded, -, hfulfilled⟩ := hanswered.resolve_right
    fun ⟨_, hfails, _⟩ => by rcases hfails with hfails | hfails <;> cases hfails
  obtain ⟨localRoute, hroute, -, -, hafter⟩ := hfulfilled.resolve_left
    fun ⟨_, hfails, _⟩ => by cases hfails
  have hread := run_finished hinitial (hrun₁.append hrun₂) hlisted
  obtain ⟨entry, hentry, hrequest, hroutes, -⟩ := hread.resolve_right
    fun ⟨_, hfails, _⟩ => by rcases hfails with hfails | hfails <;> cases hfails
  have hconsistent : Consistent (buildRouteKey localRoute.entry) s₂ :=
    (hrun₁.append hrun₂).keeps (fun _ _ _ hclaims h hstep => h.step hclaims hstep)
      (fun label hlabel => hclaims label hlabel _ localRoute hroute)
      (consistent_of_initial hinitial)
  obtain ⟨later, hserved⟩ := run_served hrun₂
  have hlater : entry ∈ later := by
    rw [← hserved] at hentry
    refine (List.mem_append.mp hentry).resolve_left fun hold => ?_
    have hsound := run_sound hinitial hrun₁
    have hfresh := hsound.handlers reader
    rw [hnew] at hfresh
    refine hfresh (List.mem_map.mpr ⟨entry.request, s₁.requests.taken_subset ?_, ?_⟩)
    · exact hsound.served ▸ List.mem_map_of_mem hold
    · rw [hrequest]
  have hordered := hconsistent.ordered
  rw [← hserved, List.pairwise_append] at hordered
  obtain ⟨route, hactive, hsame⟩ :=
    hordered.2.2 added hadded entry hlater localRoute ⟨rfl, hafter⟩
  obtain rfl : listed = HttpRoute.fromDatabase entry.before := Response.routes.inj hroutes
  exact ⟨added.answers, localRoute, route, hroute, hsame, mem_fromDatabase hactive⟩

/-- 10.1.0.0/16 on eth0, as a client puts it. -/
def nearPayload : HttpAddLocalRouteRequest where
  address := "10.1.0.0"
  prefixLen := 16
  dev := "eth0"

theorem added_then_listed :
    ∃ (s₀ s₁ s₂ : AdminSystem Bool Kernel) (labels₁ labels₂ : List (AdminLabel Bool))
      (listed : List HttpRoute), AdminInitial s₀ ∧ Run AdminStep s₀ labels₁ s₁ ∧
      s₁.handlers false = some (.finished (.addLocalRoute nearPayload) (.status "ok")) ∧
      Run AdminStep s₁ labels₂ s₂ ∧
      s₂.handlers true = some (.finished .getRoutes (.routes listed)) ∧
      ∃ answers localRoute route,
        advertisedNetworkToLocalRoute answers nearPayload.network = .ok localRoute ∧
        SameRoute (localRouteEntry localRoute) route ∧
        HttpRoute.fromDbEntry route "active" ∈ listed := by
  let post : Answers × LoopEvent :=
    (steady, .httpRequest (some (.addLocalRoute nearPayload.network)))
  have hany : (startLoop Kernel.empty { answers := steady, sent := [] } twoInterfaces).any
      (fun loop => loop.httpRequestRx && !loop.deamon.database.anyRouteChanged &&
        (finalState ((handleHttpRequest (.addLocalRoute nearPayload.network)).run
          { loop.deamon with host := loop.deamon.host.renew steady })).database.anyRouteChanged &&
        (runPass loop post).any fun loop' =>
          loop'.httpRequestRx && loop'.triggeredUpdateLockTimer.isSome) = true := by
    decide +kernel
  obtain ⟨loop, hstart, hnext⟩ := (Option.any_eq_true _ _).mp hany
  simp only [Bool.and_eq_true, Bool.not_eq_true', Option.any_eq_true] at hnext
  obtain ⟨⟨⟨hrx, hquiet⟩, hposts⟩, loop₁, hpass, hrx₁, hlocked⟩ := hnext
  let s₀ : AdminSystem Bool Kernel := ⟨true, fun _ => none, .empty, true, some loop, []⟩
  have hinitial : AdminInitial s₀ :=
    ⟨fun _ => rfl, rfl, rfl, rfl, loop, rfl, startLoop_initial rfl hstart⟩
  obtain ⟨deamon₁, hpost⟩ : ∃ deamon₁, (handleHttpRequest (.addLocalRoute nearPayload.network)).run
      { loop.deamon with host := loop.deamon.host.renew steady } = .ok .ok deamon₁ := by
    rcases setupAdvertisedNetwork_response nearPayload.network
      { loop.deamon with host := loop.deamon.host.renew steady } with
      ⟨e, hfails⟩ | ⟨localRoute, -, -, hadds⟩
    · rw [hfails] at hposts
      exact absurd (hquiet.symm.trans hposts) (by simp)
    · exact ⟨_, hadds⟩
  have htrigger : trigger.run { loop with deamon := deamon₁ } = .ok .goOn loop₁ := by
    have hready : loop.ready post.2 = true := hrx
    rw [runPass, if_pos hready, select_httpRequest_run, hpost] at hpass
    simp only [trigger_run] at hpass ⊢
    split_ifs at hpass ⊢
    · rw [Option.some.inj hpass]
    · cases hsend : (sendMulticastAdvertisement true).run deamon₁ with
      | ok a deamon =>
          rw [hsend] at hpass
          rw [← Option.some.inj hpass]
      | error e deamon => simp [hsend] at hpass
  let deamon₂ : RipDeamon Kernel := { loop₁.deamon with host := loop₁.deamon.host.renew steady }
  have htrigger₂ : trigger.run { loop₁ with deamon := deamon₂ } =
      .ok .goOn { loop₁ with deamon := deamon₂ } := by
    rw [trigger_run, if_pos]
    simp [hlocked]
  obtain ⟨entry₁, s₁, hrun₁, hidle₁, hhandlers₁⟩ := undisturbed_call false
    (.addLocalRoute nearPayload) (s := s₀) ⟨rfl, rfl, rfl, rfl⟩ rfl hrx hpost htrigger
  obtain ⟨entry₂, s₂, hrun₂, -, hhandlers₂⟩ := undisturbed_call true .getRoutes hidle₁
    (by rw [hhandlers₁]; rfl) hrx₁ rfl htrigger₂
  have hposted := congrFun hhandlers₁ false
  have hlisted := congrFun hhandlers₂ true
  rw [Function.update_self] at hposted hlisted
  refine ⟨s₀, s₁, s₂, _, _, _, hinitial, hrun₁, hposted, hrun₂, hlisted, ?_⟩
  refine listed_after_added hinitial hrun₁ hposted (by rw [hhandlers₁]; rfl) hrun₂ hlisted ?_
  rintro label hlabel answers localRoute hroute ⟨answers', packet, rfl, -⟩
  simp at hlabel

end RipV2.AdminConsistency
