import RipV2.HeardEntries
import RipV2.HandlerRules
import RipV2.LoopEvaluation

/-!
When every driver and socket operation succeeds, what can still end the loop: a
packet that the daemon refuses, a route on its way to garbage whose destination is
there already, and the end of every receiving task.
-/

namespace RipV2.LoopSurvival

open RipV2.AdminInterface
open RipV2.ByteOrder
open RipV2.Database
open RipV2.Deamon
open RipV2.Deamon.RipDeamon
open RipV2.DeamonLoop
open RipV2.DeamonLoop.EventLoop
open RipV2.DeamonRuns
open RipV2.DeamonSimulation
open RipV2.DestinationSlots
open RipV2.EffectLogic
open RipV2.HandlerRules
open RipV2.HashMapModel
open RipV2.HeardEntries
open RipV2.HostEnvironment
open RipV2.KernelRoutes
open RipV2.LoopEvaluation
open RipV2.LoopPasses
open RipV2.Packets
open RipV2.ReachableRoutes
open RipV2.Results
open RipV2.RoutingTables
open RipV2.TransitionRuns
open RipV2.Updater

/-- An unknown command, a request that is not for the full table, or a response
of another version. -/
def refused (packet : RipPacket) : Bool :=
  !packet.isRequest && !(packet.isResponse && packet.data.header.version == rip2Version)

/-- A route times out whose destination is in garbage. -/
def TimesOutOverGarbage (answers : Answers) (database : RipDatabase) : Prop :=
  ∃ key route, (slot database key).active = some route ∧
    (route.countTimeout (timeoutCheckIntervalSecs answers)).timedOut
      (routeTimeoutSecs answers) = true ∧
    (slot database key).garbage ≠ none

/-- What ends the loop although nothing fails: a refused packet, a route on its way to garbage
over garbage, and the end of every receiving task, which are none if no interface is configured. -/
def StopsLoop (answers : Answers) (database : RipDatabase) : LoopEvent → Prop
  | .received (some packet) => refused packet = true ∨
      ∃ key, conflicts ((DeamonEvent.received packet).heard key) (slot database key) = true
  | .received none => True
  | .timeoutTimer => TimesOutOverGarbage answers database
  | _ => False

/-- A signal. -/
def interrupts : LoopEvent → Bool
  | .ctrlC _ => true
  | .sigterm => true
  | _ => false

theorem stopsLoop_reordered {database database' : RipDatabase}
    (h : database.Reordered database') (answers : Answers) (event : LoopEvent) :
    StopsLoop answers database' event ↔ StopsLoop answers database event := by
  have hslot := slot_reordered h
  cases event with
  | received packet =>
      cases packet with
      | none => rfl
      | some packet => simp only [StopsLoop, hslot]
  | timeoutTimer => simp only [StopsLoop, TimesOutOverGarbage, hslot]
  | ctrlC | sigterm | requestWarmupTimer | updateTimer | triggeredUpdateLockTimer
  | garbageCollectionTimer | httpRequest => rfl

variable {Driver : Type}

/-- A host that answers everything goes on doing so. -/
def StaysReliable (deamon deamon' : RipDeamon Driver) : Prop :=
  deamon.host.answers.Reliable → deamon'.host.answers.Reliable

theorem staysReliable :
    Kept fun deamon deamon' : RipDeamon Driver => StaysReliable deamon deamon' where
  refl _ := id
  trans _ _ _ h h' := h' ∘ h
  host _ _ hmoved := hmoved.reliable
  routingTable _ _ := id
  database _ _ _ := id
  advertise changedOnly _ h := (sendMulticastAdvertisement_reliable changedOnly h).2

theorem socketIo_reliable {m : HostM String Unit} {full : Endian → List Transmission}
    (hm : ∀ endian, Sends endian (full endian) m) {deamon : RipDeamon Driver}
    (h : deamon.host.answers.Reliable) :
    succeeded ((socketIo m).run deamon) = true ∧
      (finalState ((socketIo m).run deamon)).host.answers.Reliable := by
  obtain ⟨-, -, -, -, -, hreliable⟩ := hm deamon.host.answers.endian deamon.host rfl
  obtain ⟨hsucceeds, hstays⟩ := hreliable h
  rw [socketIo, EStateM.run_adaptExcept, onHost, run_zoom]
  cases hrun : m.run deamon.host with
  | error e host =>
      rw [hrun] at hsucceeds
      exact absurd hsucceeds (by simp)
  | ok a host =>
      rw [hrun] at hstays
      exact ⟨rfl, hstays⟩

theorem sendMulticastRequest_reliable {deamon : RipDeamon Driver}
    (h : deamon.host.answers.Reliable) : succeeded (sendMulticastRequest.run deamon) = true := by
  rw [sendMulticastRequest, EStateM.run_bind, EStateM.run_get]
  exact succeeded_forM (fun ifc _ _ hreliable =>
    socketIo_reliable (fun endian => sends_requestMulticast endian ifc.tx) hreliable) h

theorem handleHttpRequest_succeeds (kind : HttpRequestKind) (deamon : RipDeamon Driver) :
    succeeded ((handleHttpRequest kind).run deamon) = true := by
  cases kind with
  | getRoutes => rfl
  | addLocalRoute network =>
      simp only [handleHttpRequest, EStateM.run_bind, run_attempt]
      cases (setupAdvertisedNetwork network).run deamon <;> rfl

variable [RoutingTableDriver Driver]

theorem handlePacket_succeeds_iff (hdriver : NeverFails Driver) {deamon : RipDeamon Driver}
    (hkeys : KeysMatch deamon.database) (hreliable : deamon.host.answers.Reliable)
    (packet : RipPacket) : succeeded ((handlePacket packet).run deamon) = true ↔
      ¬StopsLoop deamon.host.answers deamon.database (.received (some packet)) := by
  rw [StopsLoop, not_or, not_exists]
  cases haccepted : accepted packet with
  | true =>
      have hkept : refused packet = false := by
        simp only [accepted, Bool.and_eq_true] at haccepted
        simp [refused, haccepted.1]
      rw [(handlePacket_hears haccepted hkeys).2 hdriver]
      simp [hkept]
  | false =>
      have hnone : ∀ key, (DeamonEvent.received packet).heard key = [] := by
        simp [DeamonEvent.heard, haccepted]
      simp only [hnone, conflicts, meets, Bool.false_eq_true, not_false_eq_true, implies_true,
        and_true]
      rw [handlePacket, refused]
      split_ifs with hrequest hresponse
      · simp only [EStateM.run_bind, EStateM.run_get, hrequest, Bool.not_true, Bool.false_and,
          Bool.false_eq_true, not_false_eq_true, iff_true]
        exact (socketIo_reliable (fun endian => sends_unicastResponse endian deamon.database
          packet.source packet.ifInfo) hreliable).1
      · rw [handleResponsePacket]
        split_ifs with hversion hport
        · exact iff_of_false (by simp) (by simp [hrequest, hversion])
        · simp only [ne_eq, not_not] at hversion
          exact iff_of_true rfl (by simp [hresponse, hversion])
        · simp only [ne_eq, not_not] at hversion hport
          simp [accepted, hresponse, hversion, hport] at haccepted
      · exact iff_of_false (by simp) (by simp [hrequest, hresponse])

omit [RoutingTableDriver Driver] in
theorem mem_timedOutRoutes_iff {deamon : RipDeamon Driver} {route : RipDbEntry} :
    route ∈ (timeoutCheck deamon).1 ↔ ∃ key old, (slot deamon.database key).active = some old ∧
      old.countTimeout (timeoutCheckIntervalSecs deamon.host.answers) = route ∧
      route.timedOut (routeTimeoutSecs deamon.host.answers) = true := by
  simp only [timeoutCheck, RipDatabase.collectTimedOutRoutes, List.mem_filter,
    HashMap.mem_values_iff, HashMap.lookup_mapValues, Option.map_eq_some_iff, slot_active]
  constructor
  · rintro ⟨⟨key, old, hold, heq⟩, htimedOut⟩
    exact ⟨key, old, hold, heq, htimedOut⟩
  · rintro ⟨key, old, hold, heq, htimedOut⟩
    exact ⟨⟨key, old, hold, heq⟩, htimedOut⟩

theorem handleRouteTimeoutTick_succeeds_iff (hdriver : NeverFails Driver)
    {deamon : RipDeamon Driver} (hkeys : KeysMatch deamon.database) (timer : Timer) :
    succeeded ((handleRouteTimeoutTick timer).run deamon) = true ↔
      ¬TimesOutOverGarbage deamon.host.answers deamon.database := by
  have hlisted : Listed (timeoutCheck deamon).2 (timeoutCheck deamon).1 :=
    listed_timedOutRoutes ((timeoutCheck_simulated timer true deamon).keysMatch hkeys) _
  have hexpires := expireRoutes_succeeds hdriver
    { deamon with database := (timeoutCheck deamon).2 } hlisted
  have hruns : succeeded ((handleRouteTimeoutTick timer).run deamon) =
      succeeded (((timeoutCheck deamon).1.forM expireRoute).run
        { deamon with database := (timeoutCheck deamon).2 }) := by
    rw [handleRouteTimeoutTick_run]
    cases ((timeoutCheck deamon).1.forM expireRoute).run
      { deamon with database := (timeoutCheck deamon).2 } <;> rfl
  rw [hruns, hexpires]
  have hkey : ∀ key old, (slot deamon.database key).active = some old →
      buildRouteKey (old.countTimeout
        (timeoutCheckIntervalSecs deamon.host.answers)).ripEntry = key := by
    intro key old hold
    rw [(sameRoute_countTimeout _ old).ripEntry]
    exact hkeys key old hold
  constructor
  · rintro hfree ⟨key, old, hold, htimedOut, hgarbage⟩
    have hnone := hfree _ (mem_timedOutRoutes_iff.mpr ⟨key, old, hold, rfl, htimedOut⟩)
    rw [hkey key old hold] at hnone
    exact hgarbage hnone
  · intro hnone route hmem
    obtain ⟨key, old, hold, rfl, htimedOut⟩ := mem_timedOutRoutes_iff.mp hmem
    rw [hkey key old hold]
    by_contra hgarbage
    exact hnone ⟨key, old, hold, htimedOut, hgarbage⟩

theorem handle_succeeds_iff (hdriver : NeverFails Driver) {loop : EventLoop Driver}
    (hkeys : KeysMatch loop.deamon.database)
    (hreliable : loop.deamon.host.answers.Reliable) {event : LoopEvent}
    {deamonEvent : DeamonEvent} (hevent : event.deamonEvent loop = some deamonEvent) :
    succeeded (deamonEvent.handle.run loop.deamon) = true ↔
      ¬StopsLoop loop.deamon.host.answers loop.deamon.database event := by
  cases event with
  | ctrlC | sigterm | triggeredUpdateLockTimer => simp [LoopEvent.deamonEvent] at hevent
  | requestWarmupTimer =>
      obtain rfl : DeamonEvent.sendRequests = deamonEvent := by
        simpa [LoopEvent.deamonEvent] using hevent
      exact iff_of_true (sendMulticastRequest_reliable hreliable) id
  | updateTimer =>
      obtain rfl : DeamonEvent.advertise false = deamonEvent := by
        simpa [LoopEvent.deamonEvent] using hevent
      exact iff_of_true (sendMulticastAdvertisement_reliable false hreliable).1 id
  | timeoutTimer =>
      obtain rfl : DeamonEvent.routeTimeoutTick loop.garbageCollectionTimer = deamonEvent := by
        simpa [LoopEvent.deamonEvent] using hevent
      rw [DeamonEvent.handle, succeeded_discard]
      exact handleRouteTimeoutTick_succeeds_iff hdriver hkeys _
  | garbageCollectionTimer =>
      obtain rfl : DeamonEvent.garbageCollectionTick none = deamonEvent := by
        simpa [LoopEvent.deamonEvent] using hevent
      rw [DeamonEvent.handle, succeeded_discard, handleGarbageCollectionTick_run]
      exact iff_of_true rfl id
  | received packet =>
      cases packet with
      | none => simp [LoopEvent.deamonEvent] at hevent
      | some packet =>
          obtain rfl : DeamonEvent.received packet = deamonEvent := by
            simpa [LoopEvent.deamonEvent] using hevent
          exact handlePacket_succeeds_iff hdriver hkeys hreliable packet
  | httpRequest request =>
      cases request with
      | none => simp [LoopEvent.deamonEvent] at hevent
      | some kind =>
          obtain rfl : DeamonEvent.httpRequest kind = deamonEvent := by
            simpa [LoopEvent.deamonEvent] using hevent
          rw [DeamonEvent.handle, succeeded_discard]
          exact iff_of_true (handleHttpRequest_succeeds kind loop.deamon) id

theorem select_goesOn_iff (hdriver : NeverFails Driver) (loop : EventLoop Driver)
    (hkeys : KeysMatch loop.deamon.database)
    (hreliable : loop.deamon.host.answers.Reliable) {event : LoopEvent}
    (hevent : interrupts event = false) :
    (∃ selected, (select event).run loop = .ok .goOn selected) ↔
      ¬StopsLoop loop.deamon.host.answers loop.deamon.database event := by
  cases hhandled : event.deamonEvent loop with
  | none =>
      cases event with
      | requestWarmupTimer | updateTimer | timeoutTimer | garbageCollectionTimer =>
          simp [LoopEvent.deamonEvent] at hhandled
      | ctrlC | sigterm => simp [interrupts] at hevent
      | triggeredUpdateLockTimer => exact iff_of_true ⟨_, rfl⟩ id
      | received packet =>
          cases packet with
          | none =>
              refine iff_of_false ?_ (not_not_intro trivial)
              rintro ⟨selected, hselect⟩
              change EStateM.Result.error _ _ = _ at hselect
              simp at hselect
          | some packet => simp [LoopEvent.deamonEvent] at hhandled
      | httpRequest request =>
          cases request with
          | none => exact iff_of_true ⟨_, rfl⟩ id
          | some kind => simp [LoopEvent.deamonEvent] at hhandled
  | some deamonEvent =>
      rw [← handle_succeeds_iff hdriver hkeys hreliable hhandled]
      have hhandles := select_handles loop hhandled
      cases hrun : deamonEvent.handle.run loop.deamon with
      | ok a deamon =>
          rw [hrun] at hhandles
          obtain ⟨selected, hselect, -⟩ := hhandles
          exact iff_of_true ⟨selected, hselect⟩ rfl
      | error e deamon =>
          rw [hrun] at hhandles
          obtain ⟨failed, hselect, -⟩ := hhandles
          refine iff_of_false ?_ (by simp)
          rintro ⟨selected, hselected⟩
          exact absurd (hselected.symm.trans hselect) (by simp)

omit [RoutingTableDriver Driver] in
theorem trigger_goesOn {loop : EventLoop Driver}
    (hreliable : loop.deamon.host.answers.Reliable) :
    ∃ loop', trigger.run loop = .ok .goOn loop' := by
  rw [trigger_run]
  split_ifs
  · exact ⟨loop, rfl⟩
  · have hsucceeds := (sendMulticastAdvertisement_reliable true hreliable).1
    cases hrun : (sendMulticastAdvertisement true).run loop.deamon with
    | error e deamon =>
        rw [hrun] at hsucceeds
        exact absurd hsucceeds (by simp)
    | ok a deamon => exact ⟨_, rfl⟩

/-- A pass in which no operation fails and no signal arrives. -/
structure Undisturbed (label : Answers × LoopEvent) : Prop where
  reliable : label.1.Reliable
  uninterrupted : interrupts label.2 = false

theorem resumed_select_goesOn_iff (hdriver : NeverFails Driver) {loop : EventLoop Driver}
    (hkeys : KeysMatch loop.deamon.database) {label : Answers × LoopEvent}
    (hlabel : Undisturbed label) {deamon₀ : RipDeamon Driver}
    (hresumes : Resumes label.1 loop.deamon deamon₀) :
    (∃ selected, (select label.2).run { loop with deamon := deamon₀ } = .ok .goOn selected) ↔
      ¬StopsLoop label.1 loop.deamon.database label.2 := by
  obtain ⟨database₀, horder₀, rfl⟩ := hresumes
  rw [← stopsLoop_reordered horder₀]
  exact select_goesOn_iff hdriver _ (hkeys.reordered horder₀) hlabel.reliable hlabel.uninterrupted

theorem pass_goesOn_iff (hdriver : NeverFails Driver) {loop : EventLoop Driver}
    (hkeys : KeysMatch loop.deamon.database) {label : Answers × LoopEvent}
    (hlabel : Undisturbed label)
    {res : EStateM.Result RipError (EventLoop Driver) Control} (hpass : Pass loop label res) :
    (∃ loop', res = .ok .goOn loop') ↔ ¬StopsLoop label.1 loop.deamon.database label.2 := by
  cases hpass with
  | ended hready hresumes hselect hends =>
      rw [← resumed_select_goesOn_iff hdriver hkeys hlabel hresumes]
      refine iff_of_false (fun ⟨loop', hres⟩ => hends loop' hres) ?_
      rintro ⟨selected, hselected⟩
      exact hends selected (hselect.symm.trans hselected)
  | @triggered deamon₀ selected database hready hresumes hselect horder =>
      rw [← resumed_select_goesOn_iff hdriver hkeys hlabel hresumes]
      have hreliable : deamon₀.host.answers.Reliable := by
        obtain ⟨database₀, -, rfl⟩ := hresumes
        exact hlabel.reliable
      have hselected := staysReliable.select label.2 { loop with deamon := deamon₀ } hreliable
      rw [hselect] at hselected
      exact iff_of_true (trigger_goesOn hselected) ⟨selected, hselect⟩

theorem handlePacket_of_refused {packet : RipPacket} (h : refused packet = true)
    (deamon : RipDeamon Driver) :
    (handlePacket packet).run deamon = .error .malformedPacket deamon := by
  rw [refused, Bool.and_eq_true, Bool.not_eq_true', Bool.not_eq_true'] at h
  rw [handlePacket, if_neg (by simp [h.1])]
  split_ifs with hresponse
  · rw [handleResponsePacket, if_pos]
    · rfl
    · simpa [hresponse] using h.2
  · rfl

theorem select_refused {packet : RipPacket} (h : refused packet = true)
    (loop : EventLoop Driver) :
    (select (.received (some packet))).run loop = .error .malformedPacket loop := by
  rw [select_received_run, handlePacket_of_refused h]

theorem pass_of_refused {loop : EventLoop Driver} {answers : Answers} {packet : RipPacket}
    (h : refused packet = true)
    {res : EStateM.Result RipError (EventLoop Driver) Control}
    (hpass : Pass loop (answers, .received (some packet)) res) :
    loop.deamon.database.Reordered (finalState res).deamon.database ∧
      (finalState res).deamon.routingTable = loop.deamon.routingTable := by
  cases hpass with
  | ended hready hresumes hselect hends =>
      obtain ⟨database₀, horder₀, rfl⟩ := hresumes
      rw [← hselect, select_refused h]
      exact ⟨horder₀, rfl⟩
  | triggered hready hresumes hselect horder =>
      exact absurd ((select_refused h _).symm.trans hselect) (by simp)

/-- From every reachable state a pass in which no operation fails and no signal arrives
goes on exactly if its event is none of those that stop the loop, among them the end of
every receiving task; a refused packet changes neither the database nor the routing table. -/
theorem run_goesOn_iff (hdriver : NeverFails Driver) {loop₀ loop : EventLoop Driver}
    {labels : List (Answers × LoopEvent)} (hinitial : LoopInitial loop₀)
    (hrun : Run LoopStep loop₀ labels loop) :
    (∀ label res, Undisturbed label → Pass loop label res →
      ((∃ loop', res = .ok .goOn loop') ↔ ¬StopsLoop label.1 loop.deamon.database label.2)) ∧
    ∀ answers packet res, refused packet = true →
      Pass loop (answers, .received (some packet)) res →
        loop.deamon.database.Reordered (finalState res).deamon.database ∧
        (finalState res).deamon.routingTable = loop.deamon.routingTable := by
  have hkeys := keysMatch_of_wellFormed (loop_wellFormed hinitial hrun)
  exact ⟨fun label res hlabel hpass => pass_goesOn_iff hdriver hkeys hlabel hpass,
    fun answers packet res hrefused hpass => pass_of_refused hrefused hpass⟩

/-- The packet under another header. -/
def withHeader (header : RipHeader) (packet : RipPacket) : RipPacket :=
  { packet with data := { packet.data with header } }

/-- The neighbour's offer in a response of version 1. -/
def oldResponse : RipPacket :=
  withHeader { command := ripCmdResponse, version := 1, padding := 0 }
    (responseFrom neighbour eth1 [plainEntry farNetwork 1])

theorem steady_undisturbed (packet : RipPacket) :
    Undisturbed (steady, .received (some packet)) :=
  ⟨Answers.steady_reliable _ _, rfl⟩

theorem offer_goesOn :
    ∃ loop₀ loop : EventLoop Kernel, LoopInitial loop₀ ∧
      Run LoopStep loop₀ [offer farNetwork 1] loop ∧
      ¬StopsLoop steady loop.deamon.database (offer farNetwork 2).2 ∧
      ∀ res, Pass loop (steady, .received (some oldResponse)) res →
        ¬∃ loop', res = .ok .goOn loop' := by
  have hany : (startLoop Kernel.empty { answers := steady, sent := [] } twoInterfaces).any
      (fun loop => (runPasses loop [offer farNetwork 1]).any fun loop =>
        (runPass loop (offer farNetwork 2)).isSome) = true := by
    decide +kernel
  obtain ⟨loop₀, loop, hinitial, hrun, hnext⟩ := exists_loopRun rfl hany
  obtain ⟨loop', hloop'⟩ := Option.isSome_iff_exists.mp hnext
  have hgoes := (run_goesOn_iff kernel_neverFails hinitial hrun).1
  refine ⟨loop₀, loop, hinitial, hrun, ?_, fun res hpass => ?_⟩
  · exact (hgoes _ _ (steady_undisturbed _) (runPass_loopStep hloop')).mp ⟨loop', rfl⟩
  · rw [hgoes _ _ (steady_undisturbed _) hpass, not_not]
    exact .inl (by decide)

/-- A response of version 1 ends the loop, though nothing fails. -/
theorem old_response_ends_loop :
    ∃ (loop₀ loop : EventLoop Kernel)
      (res : EStateM.Result RipError (EventLoop Kernel) Control), LoopInitial loop₀ ∧
      Run LoopStep loop₀ [offer farNetwork 1] loop ∧
      Undisturbed (steady, .received (some oldResponse)) ∧
      Pass loop (steady, .received (some oldResponse)) res ∧ ¬∃ loop', res = .ok .goOn loop' := by
  have hany : (startLoop Kernel.empty { answers := steady, sent := [] } twoInterfaces).any
      (fun loop => (runPasses loop [offer farNetwork 1]).any fun _ => true) = true := by
    decide +kernel
  obtain ⟨loop₀, loop, hinitial, hrun, -⟩ := exists_loopRun rfl hany
  have hrefused : refused oldResponse = true := by decide
  exact ⟨loop₀, loop, _, hinitial, hrun, steady_undisturbed _,
    .ended rfl ⟨_, .refl _, rfl⟩ (select_refused hrefused _) (by simp), by simp⟩

end RipV2.LoopSurvival
