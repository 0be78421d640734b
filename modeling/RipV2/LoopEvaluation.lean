import RipV2.KernelRoutes
import RipV2.LoopPasses

namespace RipV2.LoopEvaluation

open RipV2.Database
open RipV2.Deamon
open RipV2.Deamon.RipDeamon
open RipV2.DeamonLoop
open RipV2.DeamonLoop.EventLoop
open RipV2.HostEnvironment
open RipV2.KernelRoutes
open RipV2.LoopPasses
open RipV2.RoutingTables
open RipV2.TransitionRuns

variable {Driver : Type} [RoutingTableDriver Driver]

/-- One pass. -/
def runPass (loop : EventLoop Driver) (label : Answers × LoopEvent) :
    Option (EventLoop Driver) :=
  if loop.ready label.2 then
    match (select label.2).run
        { loop with deamon := { loop.deamon with host := loop.deamon.host.renew label.1 } } with
    | .ok .goOn selected =>
        match trigger.run selected with
        | .ok _ loop' => some loop'
        | .error _ _ => none
    | _ => none
  else none

/-- Passes one after the other, until one ends the loop. -/
def runPasses (loop : EventLoop Driver) :
    List (Answers × LoopEvent) → Option (EventLoop Driver)
  | [] => some loop
  | label :: labels => (runPass loop label).bind fun loop' => runPasses loop' labels

/-- Set up a daemon and enter its loop. -/
def startLoop (driver : Driver) (host : Host) (ripCfg : RipConfiguration) :
    Option (EventLoop Driver) :=
  match (setup (.ok ripCfg)).run (RipDeamon.new driver host) with
  | .ok _ deamon =>
      match (enter (.ok ())).run deamon with
      | .ok loop _ => some loop
      | .error _ _ => none
  | .error _ _ => none

theorem runPass_loopStep {loop loop' : EventLoop Driver} {label : Answers × LoopEvent}
    (h : runPass loop label = some loop') : LoopStep loop label loop' := by
  rw [runPass] at h
  split_ifs at h with hready
  split at h
  · rename_i selected hselect
    split at h
    · rename_i control loop'' htrigger
      obtain rfl : loop'' = loop' := by simpa using h
      have hcontrol : control = .goOn := by
        rw [trigger_run] at htrigger
        split_ifs at htrigger
        · exact (EStateM.Result.ok.inj htrigger).1.symm
        · split at htrigger
          · exact (EStateM.Result.ok.inj htrigger).1.symm
          · simp at htrigger
      rw [LoopStep, ← hcontrol, ← htrigger]
      exact .triggered hready ⟨loop.deamon.database, .refl _, rfl⟩ hselect (.refl _)
    · simp at h
  · simp at h

theorem runPasses_run {loop loop' : EventLoop Driver} {labels : List (Answers × LoopEvent)}
    (h : runPasses loop labels = some loop') : Run LoopStep loop labels loop' := by
  induction labels generalizing loop with
  | nil =>
      obtain rfl : loop = loop' := by simpa [runPasses] using h
      exact .nil
  | cons label labels ih =>
      obtain ⟨loop₁, hfirst, hrest⟩ := Option.bind_eq_some_iff.mp h
      exact (Run.single (runPass_loopStep hfirst)).append (ih hrest)

omit [RoutingTableDriver Driver] in
theorem startLoop_initial {driver : Driver} {host : Host} {ripCfg : RipConfiguration}
    {loop : EventLoop Driver} (hsent : host.sent = [])
    (h : startLoop driver host ripCfg = some loop) : LoopInitial loop := by
  rw [startLoop] at h
  split at h
  · rename_i deamon hsetup
    split at h
    · rename_i loop' deamon' henter
      obtain rfl : loop' = loop := by simpa using h
      exact ⟨driver, host, .ok ripCfg, .ok (), deamon, deamon', hsent, hsetup, henter⟩
    · simp at h
  · simp at h

theorem exists_loopRun {driver : Driver} {host : Host} {ripCfg : RipConfiguration}
    {labels : List (Answers × LoopEvent)} {p : EventLoop Driver → Bool} (hsent : host.sent = [])
    (h : (startLoop driver host ripCfg).any (fun loop => (runPasses loop labels).any p) = true) :
    ∃ loop loop', LoopInitial loop ∧ Run LoopStep loop labels loop' ∧ p loop' = true := by
  obtain ⟨loop, hstart, hrest⟩ := (Option.any_eq_true _ _).mp h
  obtain ⟨loop', hrun, hp⟩ := (Option.any_eq_true _ _).mp hrest
  exact ⟨loop, loop', startLoop_initial hsent hstart, runPasses_run hrun, hp⟩

def twoInterfaces : RipConfiguration where
  ripInterfaces := ["eth0", "eth1"]
  advertisedNetworks := []

/-- The neighbour's response with one entry for the network. -/
def offer (network : RipRouteKey) (metric : UInt32) : Answers × LoopEvent :=
  (steady, .received (some (responseFrom neighbour eth1 [plainEntry network metric])))

/-- Routes time out at the first check and garbage is collected at once. -/
def impatient : Answers :=
  { steady with environ := fun name =>
      if name = "RIP_ROUTE_TIMEOUT_SECS" then some "15"
      else if name = "RIP_GARBAGE_COLLECTION_LIFETIME_SECS" then some "0"
      else none }

end RipV2.LoopEvaluation
