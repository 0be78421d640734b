import RipV2.ConfiguredStart
import RipV2.LoopEvaluation

/-!
What the loop makes of its events is a run of the daemon: each pass is the step of the
arm's handler and perhaps a triggered update.
-/

namespace RipV2.LoopRefinement

open RipV2.ConfiguredStart
open RipV2.Database
open RipV2.Deamon
open RipV2.Deamon.RipDeamon
open RipV2.DeamonLoop
open RipV2.DeamonLoop.EventLoop
open RipV2.DeamonRuns
open RipV2.EffectLogic
open RipV2.HostEnvironment
open RipV2.KernelRoutes
open RipV2.LocalRoutes
open RipV2.LoopEvaluation
open RipV2.LoopPasses
open RipV2.ReachableRoutes
open RipV2.Results
open RipV2.RoutingTables
open RipV2.TransitionRuns

variable {Driver : Type}

theorem resumes_trans {answers answers' : Answers} {a b c : RipDeamon Driver}
    (h : Resumes answers a b) (h' : Resumes answers' b c) : Resumes answers' a c := by
  obtain ⟨database, horder, rfl⟩ := h
  obtain ⟨database', horder', rfl⟩ := h'
  refine ⟨database', ⟨?_, ?_, ?_⟩, rfl⟩
  · exact List.Perm.trans horder.okRoutes horder'.okRoutes
  · exact List.Perm.trans horder.garbageRoutes horder'.garbageRoutes
  · exact horder.anyRouteChanged.trans horder'.anyRouteChanged

/-- The same daemon, on whatever order of its maps and before whatever answers. -/
def Resumed (deamon deamon' : RipDeamon Driver) : Prop :=
  ∃ answers, Resumes answers deamon deamon'

theorem Resumed.refl (deamon : RipDeamon Driver) : Resumed deamon deamon :=
  ⟨deamon.host.answers, deamon.database, .refl _, rfl⟩

theorem Resumed.trans {a b c : RipDeamon Driver} (h : Resumed a b) (h' : Resumed b c) :
    Resumed a c := by
  obtain ⟨_, h⟩ := h
  obtain ⟨answers, h'⟩ := h'
  exact ⟨answers, resumes_trans h h'⟩

theorem Resumed.of_reordered {deamon : RipDeamon Driver} {database : RipDatabase}
    (h : deamon.database.Reordered database) : Resumed deamon { deamon with database } :=
  ⟨deamon.host.answers, database, h, rfl⟩

theorem resumed_of_waited {deamon deamon' : RipDeamon Driver} (h : Waited deamon deamon') :
    Resumed deamon deamon' := by
  refine ⟨deamon'.host.answers, deamon.database, .refl _, ?_⟩
  obtain ⟨⟨htable, hinterfaces, hdatabase⟩, -, hsent⟩ := h
  rw [← htable, ← hinterfaces, ← hdatabase, Host.renew, ← hsent]

variable [RoutingTableDriver Driver]

/-- How a step ends, when more than a failed attempt is known of it or not. -/
def Ends (success : Bool) (deamon : RipDeamon Driver) (label : Answers × DeamonEvent)
    (deamon' : RipDeamon Driver) : Prop :=
  ∃ res, Outcome deamon label res ∧ finalState res = deamon' ∧
    (success = true → succeeded res = true)

theorem Ends.attempted {success : Bool} {deamon deamon' : RipDeamon Driver}
    {label : Answers × DeamonEvent} (h : Ends success deamon label deamon') :
    Attempted deamon label deamon' := by
  obtain ⟨res, houtcome, hfinal, -⟩ := h
  exact ⟨res, houtcome, hfinal⟩

theorem Ends.step {deamon deamon' : RipDeamon Driver} {label : Answers × DeamonEvent}
    (h : Ends true deamon label deamon') : Step deamon label deamon' := by
  obtain ⟨res, houtcome, rfl, hsuccess⟩ := h
  cases res with
  | ok a deamon' => exact houtcome
  | error e deamon' => simp at hsuccess

theorem outcome_of_resumed {deamon deamon' : RipDeamon Driver} {label : Answers × DeamonEvent}
    {res : EStateM.Result RipError (RipDeamon Driver) Unit} (hsame : Resumed deamon deamon')
    (h : Outcome deamon' label res) : Outcome deamon label res := by
  obtain ⟨_, hsame⟩ := hsame
  obtain ⟨deamon₀, hresumes, hrun⟩ := h
  exact ⟨deamon₀, resumes_trans hsame hresumes, hrun⟩

/-- What is done in a pass: what the arm handles, and then perhaps a triggered update. -/
def PassEvents (loop : EventLoop Driver) (event : LoopEvent) (events : List DeamonEvent) :
    Prop :=
  events = (event.deamonEvent loop).toList ∨
    events = (event.deamonEvent loop).toList ++ [.advertise true]

theorem select_outcome {loop : EventLoop Driver} {label : Answers × LoopEvent}
    {deamon₀ : RipDeamon Driver} (hresumes : Resumes label.1 loop.deamon deamon₀)
    (hgoes : ∀ loop', (select label.2).run { loop with deamon := deamon₀ } ≠ .ok .stop loop') :
    let res := (select label.2).run { loop with deamon := deamon₀ }
    (label.2.deamonEvent loop = none ∧ Resumed loop.deamon (finalState res).deamon) ∨
      ∃ event handled, label.2.deamonEvent loop = some event ∧
        Outcome loop.deamon (label.1, event) handled ∧ succeeded handled = succeeded res ∧
        Resumed (finalState handled) (finalState res).deamon := by
  intro res
  have hsame : label.2.deamonEvent { loop with deamon := deamon₀ } =
      label.2.deamonEvent loop := by
    cases label.2 <;> rfl
  cases hevent : label.2.deamonEvent loop with
  | none =>
      rw [← hsame] at hevent
      rcases select_unhandled hevent with hstop | ⟨-, hidle⟩
      · exact absurd hstop (hgoes _)
      · refine .inl ⟨rfl, label.1, ?_⟩
        rw [hidle]
        exact hresumes
  | some event =>
      have hhandled := select_handles _ (hsame.trans hevent)
      refine .inr ⟨event, event.handle.run deamon₀, rfl, ⟨deamon₀, hresumes, rfl⟩, ?_⟩
      cases hrun : event.handle.run deamon₀ with
      | ok a deamon =>
          simp only [hrun] at hhandled
          obtain ⟨selected, hselect, hwaited, -⟩ := hhandled
          simp only [res, hselect]
          exact ⟨rfl, resumed_of_waited hwaited⟩
      | error e deamon =>
          simp only [hrun] at hhandled
          obtain ⟨failed, hselect, rfl⟩ := hhandled
          simp only [res, hselect]
          exact ⟨rfl, .refl _⟩

omit [RoutingTableDriver Driver] in
theorem trigger_cases (loop : EventLoop Driver) :
    trigger.run loop = .ok .goOn loop ∨
      let sent := (sendMulticastAdvertisement true).run loop.deamon
      succeeded (trigger.run loop) = succeeded sent ∧
        Resumed (finalState sent) (finalState (trigger.run loop)).deamon := by
  rw [trigger_run]
  split_ifs
  · exact .inl rfl
  · right
    cases hrun : (sendMulticastAdvertisement true).run loop.deamon with
    | ok a deamon => exact ⟨rfl, resumed_of_waited (waited_drawn deamon)⟩
    | error e deamon => exact ⟨rfl, .refl _⟩

/-- A pass that does not shut the daemon down, from a daemon that is the same. -/
theorem pass_refines {loop : EventLoop Driver} {label : Answers × LoopEvent}
    {res : EStateM.Result RipError (EventLoop Driver) Control} (hpass : Pass loop label res)
    (hgoes : ∀ loop', res ≠ .ok .stop loop') {deamon : RipDeamon Driver}
    (hsame : Resumed deamon loop.deamon) :
    ∃ part deamon', PassEvents loop label.2 (part.map Prod.snd) ∧
      Run (Ends (succeeded res)) deamon part deamon' ∧
      Resumed deamon' (finalState res).deamon := by
  have hselected : ∀ deamon₀ success, Resumes label.1 loop.deamon deamon₀ →
      (∀ loop', (select label.2).run { loop with deamon := deamon₀ } ≠ .ok .stop loop') →
      (success = true →
        succeeded ((select label.2).run { loop with deamon := deamon₀ }) = true) →
      ∃ part deamon', part.map Prod.snd = (label.2.deamonEvent loop).toList ∧
        Run (Ends success) deamon part deamon' ∧
        Resumed deamon' (finalState
          ((select label.2).run { loop with deamon := deamon₀ })).deamon := by
    intro deamon₀ success hresumes hgoes₀ hsuccess
    rcases select_outcome hresumes hgoes₀ with
      ⟨hnone, hidle⟩ | ⟨event, handled, hevent, houtcome, hsame', hend⟩
    · rw [hnone]
      exact ⟨[], deamon, rfl, .nil, hsame.trans hidle⟩
    · rw [hevent]
      have hends : Ends success deamon (label.1, event) (finalState handled) :=
        ⟨handled, outcome_of_resumed hsame houtcome, rfl, fun h => hsame'.trans (hsuccess h)⟩
      exact ⟨_, _, rfl, .single hends, hend⟩
  cases hpass with
  | @ended deamon₀ _ hready hresumes hselect hends =>
      subst hselect
      obtain ⟨part, deamon', hpart, hrun, hend⟩ :=
        hselected deamon₀ _ hresumes hgoes id
      exact ⟨part, deamon', .inl hpart, hrun, hend⟩
  | @triggered deamon₀ selected database hready hresumes hselect hreordered =>
      obtain ⟨part, deamon', hpart, hrun, hend⟩ :=
        hselected deamon₀ (succeeded (trigger.run
          { selected with deamon := { selected.deamon with database } })) hresumes
          (by simp [hselect]) (by simp [hselect])
      rw [hselect, finalState_ok] at hend
      have hordered := hend.trans (.of_reordered hreordered)
      rcases trigger_cases { selected with deamon := { selected.deamon with database } } with
        hidle | ⟨hsucceeded, hlast⟩
      · rw [hidle]
        rw [hidle] at hrun
        exact ⟨part, deamon', .inl hpart, hrun, hordered⟩
      · obtain ⟨answers, hresumed⟩ := hordered
        have hadvertised : Ends (succeeded (trigger.run
              { selected with deamon := { selected.deamon with database } })) deamon'
            (answers, .advertise true) (finalState ((sendMulticastAdvertisement true).run
              { selected.deamon with database })) :=
          ⟨_, ⟨_, hresumed, rfl⟩, rfl, fun h => hsucceeded ▸ h⟩
        refine ⟨part ++ [(answers, .advertise true)], _, .inr ?_, hrun.snoc hadvertised, hlast⟩
        rw [List.map_append, hpart]
        rfl

omit [RoutingTableDriver Driver] in
theorem setupAdvertisedNetwork_spawned {network : AdvertisedNetwork}
    {deamon deamon' : RipDeamon Driver}
    (h : (setupAdvertisedNetwork network).run deamon = .ok () deamon') :
    deamon'.host = deamon.host ∧ (setupAdvertisedNetwork network).run (spawnRxTasks deamon) =
      .ok () (spawnRxTasks deamon') := by
  rw [setupAdvertisedNetwork_run] at h ⊢
  simp only [spawnRxTasks]
  cases hroute : advertisedNetworkToLocalRoute deamon.host.answers network with
  | error e => simp [hroute] at h
  | ok localRoute =>
      simp only [hroute] at h
      cases hfree : deamon.database.okRoutes.lookup (buildRouteKey localRoute.entry) with
      | some old => simp [hfree] at h
      | none =>
          simp only [hfree] at h
          obtain rfl := (EStateM.Result.ok.inj h).2
          refine ⟨rfl, ?_⟩
          simp only [hfree]

/-- The networks of a configuration, as they are added before the loop. -/
def setupEvents (answers : Answers) (networks : List AdvertisedNetwork) :
    List (Answers × DeamonEvent) :=
  networks.map fun network => (answers, .addLocalRoute network)

theorem networks_run (networks : List AdvertisedNetwork) {deamon deamon' : RipDeamon Driver}
    (h : (networks.forM setupAdvertisedNetwork).run deamon = .ok () deamon') :
    Run Step (spawnRxTasks deamon) (setupEvents deamon.host.answers networks)
      (spawnRxTasks deamon') := by
  -- one network is added after the other
  induction networks generalizing deamon with
  | nil =>
      obtain rfl := (EStateM.Result.ok.inj h).2
      exact .nil
  | cons network networks ih =>
      rw [List.forM_eq_forM, List.forM_cons] at h
      obtain ⟨a, deamon₁, hfirst, hrest⟩ := run_bind_ok h
      obtain ⟨hhost, hspawned⟩ := setupAdvertisedNetwork_spawned hfirst
      have hstep : Step (spawnRxTasks deamon) (deamon.host.answers, .addLocalRoute network)
          (spawnRxTasks deamon₁) :=
        ⟨_, ⟨_, .refl _, rfl⟩, hspawned⟩
      have hnext := ih hrest
      rw [hhost] at hnext
      exact (Run.single hstep).append hnext

theorem loopInitial_refines {loop : EventLoop Driver} (h : LoopInitial loop) :
    ∃ deamon₀ answers networks deamon, Initial deamon₀ ∧
      Run Step deamon₀ (setupEvents answers networks) deamon ∧ Resumed deamon loop.deamon := by
  obtain ⟨driver, host, ripCfg, sigterm, deamon, deamon', hsent, hsetup, henter⟩ := h
  cases ripCfg with
  | error e =>
      change EStateM.Result.error _ _ = _ at hsetup
      simp at hsetup
  | ok ripCfg =>
      obtain ⟨a, deamon₁, hsockets, hnetworks⟩ := run_bind_ok hsetup
      have hinitial : Initial (spawnRxTasks deamon₁) := by
        rcases setupSockets_new driver host ripCfg.ripInterfaces with
          ⟨-, interfaces, n, -, hrun⟩ | ⟨dev, message, interfaces, n, -, hrun⟩
        · obtain rfl := (EStateM.Result.ok.inj (hrun.symm.trans hsockets)).2
          exact ⟨rfl, hsent⟩
        · simp [hrun] at hsockets
      cases sigterm with
      | error e =>
          change EStateM.Result.error _ _ = _ at henter
          simp at henter
      | ok a =>
          change EStateM.Result.ok _ _ = _ at henter
          obtain rfl := (EStateM.Result.ok.inj henter).1
          exact ⟨_, _, _, _, hinitial, networks_run _ hnetworks,
            deamon.host.drawn.drawn.answers, deamon.database, .refl _, rfl⟩

/-- A pass of the loop beside the steps of the daemon that it stands for. -/
def PassStep : RipDeamon Driver × EventLoop Driver →
    (Answers × LoopEvent) × List (Answers × DeamonEvent) →
    RipDeamon Driver × EventLoop Driver → Prop :=
  Joint LoopStep Step (fun loop label part => PassEvents loop label.2 (part.map Prod.snd))
    fun deamon loop => Resumed deamon loop.deamon

end RipV2.LoopRefinement
