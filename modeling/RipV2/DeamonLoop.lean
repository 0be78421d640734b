import RipV2.DeamonRuns

/-!
The event loop of the daemon: its timers, the arms of its `select!`, and the
triggered update at the end of each pass. Any branch that is ready may be the
one that is selected.
-/

namespace RipV2.DeamonLoop

open RipV2.AdminInterface
open RipV2.Database
open RipV2.Deamon
open RipV2.Deamon.RipDeamon
open RipV2.DeamonRuns
open RipV2.EffectLogic
open RipV2.HostEnvironment
open RipV2.LocalRoutes
open RipV2.Packets
open RipV2.Results
open RipV2.RoutingTables

structure RipConfiguration where
  ripInterfaces : List String
  advertisedNetworks : List AdvertisedNetwork
deriving DecidableEq, Repr

/-- The daemon and the local variables of `run`. A timer is the duration of its
sleep; `httpRequestRx` says whether the request channel is still open. -/
structure EventLoop (Driver : Type) where
  deamon : RipDeamon Driver
  requestWarmupTimer : Timer
  updateTimer : Duration
  triggeredUpdateLockTimer : Timer
  timeoutTimer : Duration
  garbageCollectionTimer : Timer
  httpRequestRx : Bool

/-- The passes of the loop run on the daemon and its timers. -/
abbrev LoopM (Driver α : Type) := EStateM RipError (EventLoop Driver) α

/-- What the selected branch has completed with. -/
inductive LoopEvent where
  | ctrlC (result : Except String Unit)
  | sigterm
  | requestWarmupTimer
  | updateTimer
  | triggeredUpdateLockTimer
  | timeoutTimer
  | garbageCollectionTimer
  | received (packet : Option RipPacket)
  | httpRequest (request : Option HttpRequestKind)

/-- How an arm of the `select!` ends when it does not fail. -/
inductive Control where
  | goOn
  | stop
deriving DecidableEq, Repr

variable {Driver : Type}

/-- `ripCfg` is what reading and parsing the configuration file gives. -/
def setup (ripCfg : RipResult RipConfiguration) : DeamonM Driver Unit := do
  match ripCfg with
  | .error e => throw e
  | .ok ripCfg =>
      setupSockets ripCfg.ripInterfaces
      ripCfg.advertisedNetworks.forM setupAdvertisedNetwork

/-- Every interface hands its receiving socket to a task of its own. -/
def spawnRxTasks (deamon : RipDeamon Driver) : RipDeamon Driver :=
  { deamon with interfaces := deamon.interfaces.map fun ifc => { ifc with rx := none } }

namespace EventLoop

/-- The part of `run` before the loop; `sigterm` is the result of installing the
signal handler. -/
def enter (sigterm : Except String Unit) : DeamonM Driver (EventLoop Driver) := do
  let requestWarmupTimer ← onHost createRequestWarmupDuration
  let updateTimer ← onHost createUpdateDuration
  let timeoutTimer := durationFromSecs (timeoutCheckIntervalSecs (← get).host.answers)
  modify spawnRxTasks
  match sigterm with
  | .error e => throw (.ioError e)
  | .ok () =>
      return {
        deamon := ← get
        requestWarmupTimer := some requestWarmupTimer
        updateTimer
        triggeredUpdateLockTimer := none
        timeoutTimer
        garbageCollectionTimer := none
        httpRequestRx := true }

/-- A branch that waits for an absent timer or a closed channel stays pending. -/
def ready (loop : EventLoop Driver) : LoopEvent → Bool
  | .requestWarmupTimer => loop.requestWarmupTimer.isSome
  | .triggeredUpdateLockTimer => loop.triggeredUpdateLockTimer.isSome
  | .garbageCollectionTimer => loop.garbageCollectionTimer.isSome
  | .httpRequest _ => loop.httpRequestRx
  | _ => true

/-- A handler of the daemon, as part of a pass. -/
def onDeamon {α : Type} : DeamonM Driver α → LoopM Driver α :=
  zoom deamon fun deamon loop => { loop with deamon }

variable [RoutingTableDriver Driver]

/-- The arms of the `select!`. -/
def select : LoopEvent → LoopM Driver Control
  | .ctrlC result => do
      match result with
      | .error e => throw (.ioError e)
      | .ok () =>
          onDeamon handleShutdown
          return .stop
  | .sigterm => do
      onDeamon handleShutdown
      return .stop
  | .requestWarmupTimer => do
      modify fun loop => { loop with requestWarmupTimer := none }
      onDeamon sendMulticastRequest
      return .goOn
  | .updateTimer => do
      let changedOnly := false
      onDeamon (sendMulticastAdvertisement changedOnly)
      let updateTimer ← onDeamon (onHost createUpdateDuration)
      modify fun loop => { loop with updateTimer }
      return .goOn
  | .triggeredUpdateLockTimer => do
      modify fun loop => { loop with triggeredUpdateLockTimer := none }
      return .goOn
  | .timeoutTimer => do
      let garbageCollectionTimer ←
        onDeamon (handleRouteTimeoutTick (← get).garbageCollectionTimer)
      modify fun loop => { loop with garbageCollectionTimer }
      modify fun loop => { loop with
        timeoutTimer := durationFromSecs (timeoutCheckIntervalSecs loop.deamon.host.answers) }
      return .goOn
  | .garbageCollectionTimer => do
      modify fun loop => { loop with garbageCollectionTimer := none }
      let garbageCollectionTimer ←
        onDeamon (handleGarbageCollectionTick (← get).garbageCollectionTimer)
      modify fun loop => { loop with garbageCollectionTimer }
      return .goOn
  | .received packet => do
      match packet with
      | none => throw (.ioError "all RIP receive tasks stopped")
      | some packet =>
          onDeamon (handlePacket packet)
          return .goOn
  | .httpRequest request => do
      match request with
      | some kind => let _ ← onDeamon (handleHttpRequest kind)
      | none => modify fun loop => { loop with httpRequestRx := false }
      return .goOn

omit [RoutingTableDriver Driver] in
/-- The end of every pass. -/
def trigger : LoopM Driver Control := do
  let triggeredUpdateLockTimer ←
    onDeamon (maybeSendTriggeredUpdate (← get).triggeredUpdateLockTimer)
  modify fun loop => { loop with triggeredUpdateLockTimer }
  return .goOn

end EventLoop

open EventLoop

variable [RoutingTableDriver Driver]

/-- The ways in which a pass can end. The maps may be iterated in another order
after the selected arm has changed them. -/
inductive Pass (loop : EventLoop Driver) (label : Answers × LoopEvent) :
    EStateM.Result RipError (EventLoop Driver) Control → Prop
  | ended {deamon₀ : RipDeamon Driver}
      {res : EStateM.Result RipError (EventLoop Driver) Control}
      (hready : loop.ready label.2 = true) (hresumes : Resumes label.1 loop.deamon deamon₀)
      (hselect : (select label.2).run { loop with deamon := deamon₀ } = res)
      (hends : ∀ selected, res ≠ .ok .goOn selected) : Pass loop label res
  | triggered {deamon₀ : RipDeamon Driver} {selected : EventLoop Driver} {database : RipDatabase}
      (hready : loop.ready label.2 = true) (hresumes : Resumes label.1 loop.deamon deamon₀)
      (hselect : (select label.2).run { loop with deamon := deamon₀ } = .ok .goOn selected)
      (hreordered : selected.deamon.database.Reordered database) :
      Pass loop label
        (trigger.run { selected with deamon := { selected.deamon with database } })

/-- A completed pass. -/
def LoopStep (loop : EventLoop Driver) (label : Answers × LoopEvent)
    (loop' : EventLoop Driver) : Prop :=
  Pass loop label (.ok .goOn loop')

/-- The loop before its first pass, on a daemon that has just been set up. -/
def LoopInitial (loop : EventLoop Driver) : Prop :=
  ∃ driver host ripCfg sigterm deamon deamon', host.sent = [] ∧
    (setup ripCfg).run (RipDeamon.new driver host) = .ok () deamon ∧
    (enter sigterm).run deamon = .ok loop deamon'

/-- The event of the daemon that the arm handles. -/
def LoopEvent.deamonEvent (loop : EventLoop Driver) : LoopEvent → Option DeamonEvent
  | .requestWarmupTimer => some .sendRequests
  | .updateTimer => some (.advertise false)
  | .timeoutTimer => some (.routeTimeoutTick loop.garbageCollectionTimer)
  | .garbageCollectionTimer => some (.garbageCollectionTick none)
  | .received (some packet) => some (.received packet)
  | .httpRequest (some kind) => some (.httpRequest kind)
  | _ => none

/-- The lock timer after the arm. -/
def LoopEvent.lockTimer (loop : EventLoop Driver) : LoopEvent → Timer
  | .triggeredUpdateLockTimer => none
  | _ => loop.triggeredUpdateLockTimer

end RipV2.DeamonLoop
