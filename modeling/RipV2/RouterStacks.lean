import RipV2.GracefulShutdown
import RipV2.Interoperation
import RipV2.LoopRefinement
import RipV2.NetworkSafety

/-!
Routers as they run, with their receiving tasks, channels and loops, on links. However
their steps interleave, and whenever one shuts down or fails, no router has or announces
a metric below the distance from a router that added the destination.
-/

namespace RipV2.RouterStacks

open RipV2.AdvertisedBuffers
open RipV2.Channels
open RipV2.ConfiguredStart
open RipV2.Database
open RipV2.Deamon
open RipV2.Deamon.RipDeamon
open RipV2.DeamonLoop
open RipV2.DeamonRuns
open RipV2.DeamonSimulation
open RipV2.DestinationSlots
open RipV2.EffectLogic
open RipV2.GracefulShutdown
open RipV2.HopDistance
open RipV2.HostEnvironment
open RipV2.Interoperation
open RipV2.KernelRoutes
open RipV2.LoopEvaluation
open RipV2.LoopPasses
open RipV2.LoopRefinement
open RipV2.NetworkSafety
open RipV2.Packets
open RipV2.ReachableRoutes
open RipV2.ReceivePath
open RipV2.ReceiveTask
open RipV2.ResponseEntries
open RipV2.Results
open RipV2.RoutingTables
open RipV2.SentDatagrams
open RipV2.TransitionRuns
open RipV2.Updater

variable {Router Link Driver : Type}

/-- The routers, everything that each has sent, and the destinations that each has ever
added as local routes. -/
structure StackNetwork (Router Driver : Type) where
  systems : Router → ReceiveSystem Driver
  wire : Router → List Transmission
  added : Router → Set RipRouteKey

/-- The datagram was sent on a link of the router's interface. -/
def OnLink (topology : Topology Router Link) (wire : Router → List Transmission)
    (router : Router) (ifIndex : UInt32) (payload : List UInt8) : Prop :=
  ∃ sender, ∃ transmission ∈ wire sender, ∃ link,
    topology.attached sender transmission.ifIndex link ∧
    topology.attached router ifIndex link ∧ transmission.payload = payload

/-- What the router has sent after the step. -/
def sentAfter (wire : List Transmission) : ReceiveLabel Driver → List Transmission
  | .pass _ res => (finalState res).deamon.host.sent
  | _ => wire

/-- The destinations that become local routes in the step. -/
def addedIn (s : ReceiveSystem Driver) : ReceiveLabel Driver → Set RipRouteKey
  | .pass (_, .httpRequest (some (.addLocalRoute _))) res =>
      {key | (∃ loop, s.loop = some loop ∧ loop.deamon.database.okRoutes.lookup key = none) ∧
        ∃ route, (finalState res).deamon.database.okRoutes.lookup key = some route ∧
          route.isLocal = true}
  | _ => ∅

/-- The daemons are set up; what their configurations have added is in their databases. -/
structure InitialStacks (network : StackNetwork Router Driver) : Prop where
  systems : ∀ router, ReceiveInitial (network.systems router)
  wire : ∀ router, network.wire router = []
  added : ∀ router loop, (network.systems router).loop = some loop →
    network.added router = {key | ∃ route,
      loop.deamon.database.okRoutes.lookup key = some route ∧ route.isLocal = true}

section Steps

variable [RoutingTableDriver Driver]

/-- A task, the loop or the clock of one router makes a step. Responses are not forged, but
may be lost, late, reordered and duplicated. -/
structure StackStep (topology : Topology Router Link) (network : StackNetwork Router Driver)
    (label : Router × ReceiveLabel Driver) (network' : StackNetwork Router Driver) : Prop where
  moved : ReceiveStep (network.systems label.1) label.2 (network'.systems label.1)
  received : ∀ i datagram sender packet, label.2 = .receive i (.ok datagram) →
    (network.systems label.1).tasks[i]? = some sender →
    receipt sender.task.rxSocket (.ok datagram) = some packet → packet.isResponse = true →
    OnLink topology network.wire label.1 sender.task.rxSocket.ifIndex datagram.data
  wire : network'.wire label.1 = sentAfter (network.wire label.1) label.2
  added : network'.added label.1 =
    network.added label.1 ∪ addedIn (network.systems label.1) label.2
  others : ∀ router, router ≠ label.1 → network'.systems router = network.systems router ∧
    network'.wire router = network.wire router ∧ network'.added router = network.added router

end Steps

section Shutdown

variable [RoutingTableDriver Driver]

theorem handleShutdown_sent (deamon : RipDeamon Driver) :
    ∃ sent, (finalState (handleShutdown.run deamon)).host.sent = deamon.host.sent ++ sent ∧
      sent <+: datagrams (poisoned deamon) (.advertise false) := by
  obtain ⟨-, sent, hsent, hpart⟩ := handle_sendsPart (.advertise false) (poisoned deamon)
  refine ⟨sent, ?_, hpart⟩
  have hsilent : Evolves (fun deamon deamon' : RipDeamon Driver => Silent deamon deamon')
      (deamon.database.getRoutesInRoutingTable.forM fun route => do
        let _ ← (attempt (deleteRoute route) : DeamonM Driver (Except RipError Unit))) :=
    evolves_forM silent.refl silent.trans fun route _ =>
      silent.bind (evolves_attempt (silent.onRoutingTable _)) fun _ => silent.pure _
  rw [handleShutdown_run]
  exact (hsilent _).sent.trans hsent

omit [RoutingTableDriver Driver] in
theorem metric_of_poisoned {deamon : RipDeamon Driver} {transmission : Transmission}
    (h : transmission ∈ datagrams (poisoned deamon) (.advertise false)) {data : RipPacketData}
    (hdecode : RipPacketData.fromSlice transmission.payload = .ok (.ok data))
    (hresponse : data.isResponse = true) {entry : RipEntry} (hentry : entry ∈ data.entries) :
    entry.metric = 16 := by
  obtain ⟨route, hroute, rfl⟩ := stored_of_mem_datagrams h hdecode hresponse hentry
  change route ∈ storedRoutes deamon.database.poisonAllRoutes at hroute
  rw [storedRoutes_poisonAllRoutes] at hroute
  obtain ⟨old, -, rfl⟩ := Multiset.mem_map.mp hroute
  rfl

end Shutdown

section Passes

variable [RoutingTableDriver Driver] {topology : Topology Router Link}
  {network : Network Router Driver} {router : Router}

/-- A router other than `router` is as before, and nothing but `added` is new at that one. -/
structure OnlyAt (router : Router) (added : Set RipRouteKey)
    (network network' : Network Router Driver) : Prop where
  added : network'.added router ⊆ network.added router ∪ added
  others : ∀ other, other ≠ router → network'.deamons other = network.deamons other ∧
    network'.added other = network.added other

omit [RoutingTableDriver Driver] in
theorem OnlyAt.refl (router : Router) (network : Network Router Driver) :
    OnlyAt router ∅ network network :=
  ⟨by simp, fun _ _ => ⟨rfl, rfl⟩⟩

theorem attempted_network (hsound : Sound topology network) {label : Answers × DeamonEvent}
    {deamon' : RipDeamon Driver} (hstep : Attempted (network.deamons router) label deamon')
    (hreceived : ∀ packet, label.2 = .received packet → packet.isResponse = true →
      InFlight topology network router packet) :
    ∃ network', Sound topology network' ∧ network'.deamons router = deamon' ∧
      OnlyAt router (addedBy label.2 (network.deamons router) deamon') network network' := by
  obtain ⟨network', hstep', hdeamon, hothers⟩ :=
    exists_networkStep topology network router hstep hreceived
  refine ⟨network', hstep'.sound hsound, hdeamon, ?_, fun other hother => ⟨hothers other hother,
    (hstep'.others other hother).2⟩⟩
  rw [hstep'.added, hdeamon]

theorem advertised_lookup {deamon deamon' : RipDeamon Driver} {answers : Answers}
    {changedOnly : Bool} (h : Attempted deamon (answers, .advertise changedOnly) deamon')
    {key : RipRouteKey} {route : RipDbEntry}
    (hroute : deamon.database.okRoutes.lookup key = some route) :
    ∃ route', deamon'.database.okRoutes.lookup key = some route' ∧
      route'.isLocal = route.isLocal := by
  obtain ⟨res, ⟨deamon₀, ⟨database, hreordered, rfl⟩, rfl⟩, rfl⟩ := h
  have hactive := congrArg Slot.active (slot_reordered hreordered key)
  rw [slot_active, slot_active, hroute] at hactive
  simp only [DeamonEvent.handle, sendMulticastAdvertisement_run]
  split
  · have hmarked := congrArg Slot.active (slot_markAllRoutesAsUnchanged database key)
    rw [slot_active] at hmarked
    rw [finalState_ok, hmarked]
    split_ifs
    · exact ⟨route.unchanged, by simp [Slot.unflag, hactive], rfl⟩
    · exact ⟨route, hactive, rfl⟩
  · exact ⟨route, hactive, rfl⟩

omit [RoutingTableDriver Driver] in
theorem OnlyAt.trans {added added' : Set RipRouteKey} {network₁ network₂ : Network Router Driver}
    (h : OnlyAt router added network network₁) (h' : OnlyAt router added' network₁ network₂) :
    OnlyAt router (added ∪ added') network network₂ := by
  refine ⟨fun key hkey => ?_, fun other hother => ?_⟩
  · rcases h'.added hkey with hold | hnew
    · rcases h.added hold with hold | hnew
      · exact .inl hold
      · exact .inr (.inl hnew)
    · exact .inr (.inr hnew)
  · obtain ⟨hdeamon, hadded⟩ := h.others other hother
    obtain ⟨hdeamon', hadded'⟩ := h'.others other hother
    exact ⟨hdeamon'.trans hdeamon, hadded'.trans hadded⟩

omit [RoutingTableDriver Driver] in
theorem OnlyAt.mono {added added' : Set RipRouteKey} {network' : Network Router Driver}
    (h : OnlyAt router added network network') (hadded : added ⊆ added') :
    OnlyAt router added' network network' :=
  ⟨h.added.trans (Set.union_subset_union_right _ hadded), h.others⟩

omit [RoutingTableDriver Driver] in
theorem event_of_addsNetwork {loop : EventLoop Driver} {event : LoopEvent}
    {deamonEvent : DeamonEvent} (h : event.deamonEvent loop = some deamonEvent)
    (hadds : ∃ network, AddsNetwork network deamonEvent) :
    ∃ network, event = .httpRequest (some (.addLocalRoute network)) := by
  obtain ⟨network, hadds⟩ := hadds
  cases event with
  | httpRequest request =>
      cases request with
      | none => simp [LoopEvent.deamonEvent] at h
      | some kind =>
          obtain rfl : DeamonEvent.httpRequest kind = deamonEvent := by
            simpa [LoopEvent.deamonEvent] using h
          obtain rfl : kind = .addLocalRoute network := by simpa [AddsNetwork] using hadds
          exact ⟨network, rfl⟩
  | received packet =>
      cases packet with
      | none => simp [LoopEvent.deamonEvent] at h
      | some packet =>
          obtain rfl : DeamonEvent.received packet = deamonEvent := by
            simpa [LoopEvent.deamonEvent] using h
          simp [AddsNetwork] at hadds
  | requestWarmupTimer | updateTimer | timeoutTimer | garbageCollectionTimer =>
      obtain rfl := Option.some.inj h
      simp [AddsNetwork] at hadds
  | _ => simp [LoopEvent.deamonEvent] at h

omit [RoutingTableDriver Driver] in
theorem event_of_received {loop : EventLoop Driver} {event : LoopEvent} {packet : RipPacket}
    (h : event.deamonEvent loop = some (.received packet)) : event = .received (some packet) := by
  cases event with
  | received received =>
      cases received with
      | none => simp [LoopEvent.deamonEvent] at h
      | some other =>
          obtain rfl : other = packet := by simpa [LoopEvent.deamonEvent] using h
          rfl
  | httpRequest request => cases request <;> simp [LoopEvent.deamonEvent] at h
  | _ => simp [LoopEvent.deamonEvent] at h

theorem arm_network (hsound : Sound topology network) {loop : EventLoop Driver}
    (hdeamon : network.deamons router = loop.deamon) {event : LoopEvent}
    {part : List (Answers × DeamonEvent)} {deamon' : RipDeamon Driver}
    (hpart : part.map Prod.snd = (event.deamonEvent loop).toList)
    (hrun : Run Attempted loop.deamon part deamon')
    (hreceived : ∀ packet, event = .received (some packet) → packet.isResponse = true →
      InFlight topology network router packet) :
    ∃ network', Sound topology network' ∧ network'.deamons router = deamon' ∧
      OnlyAt router {key | (∃ added, event = .httpRequest (some (.addLocalRoute added))) ∧
        loop.deamon.database.okRoutes.lookup key = none ∧
        ∃ route, deamon'.database.okRoutes.lookup key = some route ∧ route.isLocal = true}
        network network' := by
  cases hevent : event.deamonEvent loop with
  | none =>
      rw [hevent, Option.toList_none, List.map_eq_nil_iff] at hpart
      subst hpart
      obtain rfl := hrun.eq_of_nil
      exact ⟨network, hsound, hdeamon, (OnlyAt.refl router network).mono (Set.empty_subset _)⟩
  | some deamonEvent =>
      rw [hevent, Option.toList_some, List.map_eq_singleton_iff] at hpart
      obtain ⟨label, rfl, rfl⟩ := hpart
      change Run Attempted loop.deamon ([] ++ [label]) deamon' at hrun
      obtain ⟨deamon, hnil, hstep⟩ := hrun.of_snoc
      obtain rfl := hnil.eq_of_nil
      rw [← hdeamon] at hstep
      obtain ⟨network', hsound', hdeamon', honly⟩ := attempted_network hsound hstep
        fun packet hpacket => hreceived packet (event_of_received (hpacket ▸ hevent))
      refine ⟨network', hsound', hdeamon', honly.mono fun key hkey => ?_⟩
      obtain ⟨hadds, hfree, hlocal⟩ := hkey
      rw [hdeamon] at hfree
      exact ⟨event_of_addsNetwork hevent hadds, hfree, hlocal⟩

omit [RoutingTableDriver Driver] in
theorem mem_addedIn {s : ReceiveSystem Driver} {loop : EventLoop Driver}
    {label : Answers × LoopEvent} {res : EStateM.Result RipError (EventLoop Driver) Control}
    {key : RipRouteKey} {route : RipDbEntry} (hloop : s.loop = some loop)
    (hevent : ∃ added, label.2 = .httpRequest (some (.addLocalRoute added)))
    (hfree : loop.deamon.database.okRoutes.lookup key = none)
    (hroute : (finalState res).deamon.database.okRoutes.lookup key = some route)
    (hlocal : route.isLocal = true) : key ∈ addedIn s (.pass label res) := by
  obtain ⟨answers, event⟩ := label
  obtain ⟨added, rfl⟩ := hevent
  exact ⟨⟨loop, hloop, hfree⟩, route, hroute, hlocal⟩

/-- A pass that does not shut the daemon down is at most two steps of the network. -/
theorem pass_network (hsound : Sound topology network) {s : ReceiveSystem Driver}
    {loop : EventLoop Driver} (hloop : s.loop = some loop)
    (hdeamon : network.deamons router = loop.deamon) {label : Answers × LoopEvent}
    {res : EStateM.Result RipError (EventLoop Driver) Control} (hpass : Pass loop label res)
    (hgoes : ∀ loop', res ≠ .ok .stop loop')
    (hreceived : ∀ packet, label.2 = .received (some packet) → packet.isResponse = true →
      InFlight topology network router packet) :
    ∃ network', Sound topology network' ∧
      Resumed (network'.deamons router) (finalState res).deamon ∧
      OnlyAt router (addedIn s (.pass label res)) network network' := by
  obtain ⟨part, deamon', hpart, hrun, hend⟩ := pass_refines hpass hgoes (.refl loop.deamon)
  replace hrun : Run Attempted loop.deamon part deamon' := hrun.mono fun _ _ _ _ h => h.attempted
  have hlookup : ∀ key, (finalState res).deamon.database.okRoutes.lookup key =
      deamon'.database.okRoutes.lookup key := by
    obtain ⟨answers, database, hreordered, hfinal⟩ := hend
    intro key
    rw [hfinal]
    exact congrArg Slot.active (slot_reordered hreordered key)
  rcases hpart with hpart | hpart
  · obtain ⟨network', hsound', rfl, honly⟩ := arm_network hsound hdeamon hpart hrun hreceived
    refine ⟨network', hsound', hend, honly.mono fun key hkey => ?_⟩
    obtain ⟨hadds, hfree, route, hroute, hlocal⟩ := hkey
    exact mem_addedIn hloop hadds hfree ((hlookup key).trans hroute) hlocal
  · obtain ⟨part₁, part₂, rfl, hpart₁, hlast⟩ := List.map_eq_append_iff.mp hpart
    obtain ⟨⟨answers, event⟩, rfl, hevent⟩ := List.map_eq_singleton_iff.mp hlast
    change event = .advertise true at hevent
    subst hevent
    obtain ⟨deamon₁, hfirst, hstep⟩ := hrun.of_snoc
    obtain ⟨network₁, hsound₁, rfl, honly⟩ :=
      arm_network hsound hdeamon hpart₁ hfirst hreceived
    obtain ⟨network₂, hsound₂, rfl, honly'⟩ := attempted_network hsound₁ hstep (by simp)
    refine ⟨network₂, hsound₂, hend, (honly.trans honly').mono ?_⟩
    rintro key (⟨hadds, hfree, route, hroute, hlocal⟩ | ⟨⟨added, hadds⟩, -⟩)
    · obtain ⟨route', hroute', hlocal'⟩ := advertised_lookup hstep hroute
      exact mem_addedIn hloop hadds hfree ((hlookup key).trans hroute') (hlocal'.trans hlocal)
    · simp [AddsNetwork] at hadds

end Passes

/-- The packet was sent on a link of the interface that it came in on. -/
def OnWire (topology : Topology Router Link) (wire : Router → List Transmission)
    (router : Router) (packet : RipPacket) : Prop :=
  ∃ payload, OnLink topology wire router packet.ifInfo.ifIndex payload ∧
    RipPacketData.fromSlice payload = .ok (.ok packet.data)

/-- What the tasks and the channel of a router hold. -/
structure Receives (topology : Topology Router Link) (wire : Router → List Transmission)
    (router : Router) (s : ReceiveSystem Driver) : Prop where
  buffers : ∀ (i : ℕ) (sender : RxSender), s.tasks[i]? = some sender →
    sender.task.buffer.length = rxBufferSize
  waiting : ∀ (i : ℕ) (sender : RxSender) packet, s.tasks[i]? = some sender →
    sender.outgoing = some packet → packet.isResponse = true → OnWire topology wire router packet
  queued : ∀ packet ∈ s.queue.sent, packet.2.isResponse = true →
    OnWire topology wire router packet.2

section Receiving

variable {topology : Topology Router Link} {wire wire' : Router → List Transmission}
  {router : Router} {s s' : ReceiveSystem Driver}

theorem OnWire.mono {packet : RipPacket} (h : OnWire topology wire router packet)
    (hgrown : ∀ router, wire router ⊆ wire' router) : OnWire topology wire' router packet := by
  obtain ⟨payload, ⟨sender, transmission, hsent, hlink⟩, hdecode⟩ := h
  exact ⟨payload, ⟨sender, transmission, hgrown sender hsent, hlink⟩, hdecode⟩

theorem Receives.mono (h : Receives topology wire router s)
    (hgrown : ∀ router, wire router ⊆ wire' router) : Receives topology wire' router s :=
  ⟨h.buffers, fun i sender packet htask hpacket hresponse =>
    (h.waiting i sender packet htask hpacket hresponse).mono hgrown,
    fun packet hqueued hresponse => (h.queued packet hqueued hresponse).mono hgrown⟩

theorem Receives.withTask (h : Receives topology wire router s) {i : ℕ} {sender : RxSender}
    (hbuffer : sender.task.buffer.length = rxBufferSize)
    (hwaiting : ∀ packet, sender.outgoing = some packet → packet.isResponse = true →
      OnWire topology wire router packet) :
    Receives topology wire router (s.withTask i sender) := by
  refine ⟨fun j sender' hj => ?_, fun j sender' packet hj hpacket hresponse => ?_, h.queued⟩
  · rcases tasks_withTask hj with ⟨-, rfl⟩ | ⟨-, hj⟩
    · exact hbuffer
    · exact h.buffers j sender' hj
  · rcases tasks_withTask hj with ⟨-, rfl⟩ | ⟨-, hj⟩
    · exact hwaiting packet hpacket hresponse
    · exact h.waiting j sender' packet hj hpacket hresponse

theorem receipt_of_understood {rxSocket : RipSocket} {datagram : Datagram} {packet : RipPacket}
    (h : Understood datagram.data) (hreceipt : receipt rxSocket (.ok datagram) = some packet) :
    packet.ifInfo.ifIndex = rxSocket.ifIndex ∧
      RipPacketData.fromSlice datagram.data = .ok (.ok packet.data) := by
  obtain ⟨hshort, data, hdecode, -⟩ := h
  have hfits : datagram.data.take rxBufferSize = datagram.data :=
    List.take_of_length_le (hshort.trans (by decide))
  simp only [receipt, decoding, parseRxData, hfits, hdecode] at hreceipt
  cases hsource : datagram.source with
  | v6 ip port => simp [hsource, pure, Except.pure] at hreceipt
  | v4 source =>
      obtain rfl : { ifInfo := ifInfoOf rxSocket, source, data } = packet := by
        simpa [hsource, bind, Except.bind, pure, Except.pure] using hreceipt
      exact ⟨rfl, hdecode⟩

variable [RoutingTableDriver Driver]

theorem Receives.step (h : Receives topology wire router s) {label : ReceiveLabel Driver}
    (hunderstood : ∀ router, ∀ transmission ∈ wire router, Understood transmission.payload)
    (hreceived : ∀ i datagram sender packet, label = .receive i (.ok datagram) →
      s.tasks[i]? = some sender → receipt sender.task.rxSocket (.ok datagram) = some packet →
      packet.isResponse = true →
      OnLink topology wire router sender.task.rxSocket.ifIndex datagram.data)
    (hstep : ReceiveStep s label s') : Receives topology wire router s' := by
  have hafter : ∀ (s : ReceiveSystem Driver) res, Receives topology wire router s →
      Receives topology wire router (s.afterPass res) := by
    intro s res hs
    rcases afterPass_cases s res with ⟨loop, -, hafter⟩ | ⟨-, hafter⟩
    all_goals
      rw [hafter]
      exact ⟨hs.buffers, hs.waiting, hs.queued⟩
  cases hstep with
  | @receive i sender received htask hrunning hidle =>
      have hreceiving : Receiving sender.task.rxSocket rxBufferSize sender.task :=
        ⟨rfl, h.buffers i sender htask, hrunning⟩
      refine h.withTask (turn_receipt hreceiving received).2.2.2 fun packet hpacket hresponse => ?_
      rw [RxSender.receive_outgoing hreceiving] at hpacket
      cases received with
      | error e => simp [receipt] at hpacket
      | ok datagram =>
          have hlink := hreceived i datagram sender packet rfl htask hpacket hresponse
          have hpayload : Understood datagram.data := by
            obtain ⟨other, transmission, hsent, -, -, -, hpayload⟩ := hlink
            exact hpayload ▸ hunderstood other transmission hsent
          obtain ⟨hindex, hdecode⟩ := receipt_of_understood hpayload hpacket
          exact ⟨datagram.data, hindex ▸ hlink, hdecode⟩
  | @send i sender packet queue htask hpacket hloop hsend =>
      have hcleared : Receives topology wire router
          (s.withTask i { sender with outgoing := none }) :=
        h.withTask (h.buffers i sender htask) (by simp)
      refine ⟨hcleared.buffers, hcleared.waiting, fun packet' hqueued hresponse => ?_⟩
      change packet' ∈ queue.sent at hqueued
      rw [Channel.sent_of_send hsend] at hqueued
      rcases List.mem_append.mp hqueued with hold | hnew
      · exact h.queued packet' hold hresponse
      · obtain rfl := List.mem_singleton.mp hnew
        exact h.waiting i sender packet htask hpacket hresponse
  | @lose i sender packet htask hpacket hloop =>
      exact h.withTask (h.buffers i sender htask) (by simp)
  | handle hloop hreceive hpass =>
      refine hafter _ _ ⟨h.buffers, h.waiting, ?_⟩
      rw [Channel.sent_of_receive hreceive]
      exact h.queued
  | pass hloop hpass hother => exact hafter _ _ h
  | closed hloop hended hempty hpass => exact hafter _ _ h

end Receiving

/-- What a router may announce, all in all. -/
def Announces (topology : Topology Router Link) (added : Router → Set RipRouteKey)
    (router : Router) (transmission : Transmission) : Prop :=
  ∀ data, RipPacketData.fromSlice transmission.payload = .ok (.ok data) →
    data.isResponse = true → ∀ entry ∈ data.entries, entry.metric < ripInfinityMetric →
      WithinReach topology added router (buildRouteKey entry) entry.metric

/-- The daemon of a loop that has not ended. -/
structure DeamonSound (topology : Topology Router Link) (added : Router → Set RipRouteKey)
    (wire : List Transmission) (router : Router) (deamon : RipDeamon Driver) : Prop where
  sent : deamon.host.sent = wire
  wellFormed : ∀ key, WellFormed key (slot deamon.database key)
  routes : ∀ key route, deamon.database.okRoutes.lookup key = some route →
    WithinReach topology added router key route.ripEntry.metric

/-- The invariant: every router understands what is on its way, its loop's daemon is sound, and
what is on the wire announces nothing out of reach. -/
structure StackSound (topology : Topology Router Link) (network : StackNetwork Router Driver) :
    Prop where
  receives : ∀ router, Receives topology network.wire router (network.systems router)
  understood : ∀ router, ∀ transmission ∈ network.wire router, Understood transmission.payload
  deamons : ∀ router loop, (network.systems router).loop = some loop →
    DeamonSound topology network.added (network.wire router) router loop.deamon
  datagrams : ∀ router, ∀ transmission ∈ network.wire router,
    Announces topology network.added router transmission

/-- A router whose loop has ended has no routes, but what it has sent is still there. -/
def StackNetwork.abstraction (network : StackNetwork Router Driver) (deamon : RipDeamon Driver) :
    Network Router Driver where
  deamons router :=
    match (network.systems router).loop with
    | some loop => loop.deamon
    | none => { deamon with
        database := RipDatabase.new, host := { deamon.host with sent := network.wire router } }
  added := network.added

section Soundness

variable {topology : Topology Router Link} {network network' : StackNetwork Router Driver}

theorem StackSound.sound (h : StackSound topology network) (deamon : RipDeamon Driver) :
    Sound topology (network.abstraction deamon) := by
  constructor
  · intro router key
    simp only [StackNetwork.abstraction]
    split
    · rename_i loop hloop
      exact (h.deamons router loop hloop).wellFormed key
    · exact wellFormed_new key
  · intro router key route hroute
    simp only [StackNetwork.abstraction] at hroute
    split at hroute
    · rename_i loop hloop
      exact (h.deamons router loop hloop).routes key route hroute
    · simp [RipDatabase.new] at hroute
  · intro router transmission hsent
    simp only [StackNetwork.abstraction] at hsent
    split at hsent
    · rename_i loop hloop
      rw [(h.deamons router loop hloop).sent] at hsent
      exact h.datagrams router transmission hsent
    · exact h.datagrams router transmission hsent

theorem StackSound.abstraction_sent (h : StackSound topology network) (deamon : RipDeamon Driver)
    (router : Router) :
    ((network.abstraction deamon).deamons router).host.sent = network.wire router := by
  simp only [StackNetwork.abstraction]
  split
  · rename_i loop hloop
    exact (h.deamons router loop hloop).sent
  · rfl

variable [RoutingTableDriver Driver]

theorem pass_of_receiveStep {s s' : ReceiveSystem Driver} {label : Answers × LoopEvent}
    {res : EStateM.Result RipError (EventLoop Driver) Control}
    (h : ReceiveStep s (.pass label res) s') :
    (∃ loop, s.loop = some loop ∧ Pass loop label res) ∧
      (∀ loop', s'.loop = some loop' → res = .ok .goOn loop') ∧
      ∀ packet, label.2 = .received (some packet) → ∃ i, (i, packet) ∈ s.queue.sent := by
  have hafter : ∀ (s : ReceiveSystem Driver) loop', (s.afterPass res).loop = some loop' →
      res = .ok .goOn loop' := by
    intro s loop' hloop'
    rcases afterPass_cases s res with ⟨loop, rfl, hafter⟩ | ⟨-, hafter⟩
    · rw [hafter] at hloop'
      obtain rfl := Option.some.inj hloop'
      rfl
    · simp [hafter] at hloop'
  cases h with
  | @handle loop i packet queue answers _ hloop hreceive hpass =>
      refine ⟨⟨loop, hloop, hpass⟩, hafter _, fun packet' hpacket => ⟨i, ?_⟩⟩
      obtain rfl : packet = packet' := by simpa using hpacket
      exact s.queue.pending_subset (Channel.pending_of_receive hreceive ▸ List.mem_cons_self)
  | pass hloop hpass hother =>
      exact ⟨⟨_, hloop, hpass⟩, hafter _, fun packet hpacket => absurd hpacket (hother _)⟩
  | closed hloop hended hempty hpass =>
      exact ⟨⟨_, hloop, hpass⟩, hafter _, fun packet hpacket => by simp at hpacket⟩

theorem loop_of_receiveStep {s s' : ReceiveSystem Driver} {label : ReceiveLabel Driver}
    (h : ReceiveStep s label s') (hlabel : ∀ pass res, label ≠ .pass pass res) :
    s'.loop = s.loop := by
  cases h with
  | receive _ _ _ _ => rfl
  | send _ _ _ _ => rfl
  | lose _ _ _ => rfl
  | handle _ _ _ => exact absurd rfl (hlabel _ _)
  | pass _ _ _ => exact absurd rfl (hlabel _ _)
  | closed _ _ _ _ => exact absurd rfl (hlabel _ _)

theorem pass_grows {loop : EventLoop Driver} {label : Answers × LoopEvent}
    {res : EStateM.Result RipError (EventLoop Driver) Control} (hpass : Pass loop label res) :
    loop.deamon.host.sent ⊆ (finalState res).deamon.host.sent := by
  by_cases hstops : ∃ loop', res = .ok .stop loop'
  · obtain ⟨loop', rfl⟩ := hstops
    obtain ⟨deamon, ⟨database, -, rfl⟩, hshutdown⟩ := pass_stop hpass
    obtain ⟨sent, hsent, -⟩ := handleShutdown_sent
      { loop.deamon with database, host := loop.deamon.host.renew label.1 }
    rw [finalState_ok, hshutdown, hsent]
    exact List.subset_append_left _ _
  · refine pass_keeps (I := fun deamon => loop.deamon.host.sent ⊆ deamon.host.sent) ?_ ?_ ?_ hpass
      (fun loop' h => hstops ⟨loop', h⟩) (List.Subset.refl _)
    · rintro answers deamon deamon' ⟨database, -, rfl⟩ h
      exact h
    · intro deamon deamon' hwaited h
      rwa [hwaited.sent]
    · intro event deamon _ h
      obtain ⟨-, sent, hsent, -⟩ := handle_sendsPart event deamon
      rw [hsent]
      exact List.Subset.trans h (List.subset_append_left _ _)

theorem StackStep.grows {label : Router × ReceiveLabel Driver}
    (hsound : StackSound topology network)
    (hstep : StackStep topology network label network') (router : Router) :
    network.wire router ⊆ network'.wire router ∧ network.added router ⊆ network'.added router := by
  by_cases hrouter : router = label.1
  · subst hrouter
    constructor
    · obtain ⟨router, label⟩ := label
      rw [hstep.wire]
      cases label with
      | pass label res =>
          obtain ⟨⟨loop, hloop, hpass⟩, -⟩ := pass_of_receiveStep hstep.moved
          rw [← (hsound.deamons router loop hloop).sent]
          exact pass_grows hpass
      | _ => exact List.Subset.refl _
    · rw [hstep.added]
      exact Set.subset_union_left
  · obtain ⟨-, hwire, hadded⟩ := hstep.others router hrouter
    rw [hwire, hadded]
    exact ⟨List.Subset.refl _, Set.Subset.refl _⟩

theorem StackSound.pass {router : Router} {label : Answers × LoopEvent}
    {res : EStateM.Result RipError (EventLoop Driver) Control}
    (h : StackSound topology network)
    (hstep : StackStep topology network (router, .pass label res) network') :
    (∀ loop', (network'.systems router).loop = some loop' →
      DeamonSound topology network'.added (network'.wire router) router loop'.deamon) ∧
    ∀ transmission ∈ network'.wire router,
      Announces topology network'.added router transmission := by
  obtain ⟨⟨loop, hloop, hpass⟩, hcontinues, hqueued⟩ := pass_of_receiveStep hstep.moved
  have hgrows := fun router => (hstep.grows h router).2
  have hwire : network'.wire router = (finalState res).deamon.host.sent := hstep.wire
  have hdeamon := h.deamons router loop hloop
  rw [hwire]
  by_cases hstops : ∃ loop', res = .ok .stop loop'
  · obtain ⟨loop', rfl⟩ := hstops
    refine ⟨fun loop'' hloop'' => by simpa using hcontinues loop'' hloop'', ?_⟩
    obtain ⟨deamon, ⟨database, -, rfl⟩, hshutdown⟩ := pass_stop hpass
    obtain ⟨sent, hsent, hpart⟩ := handleShutdown_sent
      { loop.deamon with database, host := loop.deamon.host.renew label.1 }
    intro transmission hmem data hdecode hresponse entry hentry hmetric
    rw [finalState_ok, hshutdown, hsent] at hmem
    rcases List.mem_append.mp hmem with hold | hnew
    · change transmission ∈ loop.deamon.host.sent at hold
      rw [hdeamon.sent] at hold
      exact (h.datagrams router transmission hold data hdecode hresponse entry hentry
        hmetric).mono hgrows
    · rw [metric_of_poisoned (hpart.subset hnew) hdecode hresponse hentry] at hmetric
      exact absurd hmetric (by decide)
  · have hsame : (network.abstraction loop.deamon).deamons router = loop.deamon := by
      simp only [StackNetwork.abstraction, hloop]
    obtain ⟨final, hsound, ⟨answers, database, hreordered, hfinal⟩, honly⟩ :=
      pass_network (h.sound loop.deamon) hloop hsame hpass (fun loop' h => hstops ⟨loop', h⟩) (by
        intro packet hpacket hresponse
        obtain ⟨i, hmem⟩ := hqueued packet hpacket
        obtain ⟨payload, ⟨sender, transmission, hsent, link, hfrom, hto, rfl⟩, hdecode⟩ :=
          (h.receives router).queued _ hmem hresponse
        rw [← h.abstraction_sent loop.deamon sender] at hsent
        exact ⟨sender, transmission, hsent, link, hfrom, hto, hdecode⟩)
    have hadded : ∀ origin, final.added origin ⊆ network'.added origin := by
      intro origin
      by_cases horigin : origin = router
      · rw [horigin, hstep.added]
        exact honly.added
      · rw [(honly.others origin horigin).2, (hstep.others origin horigin).2.2]
        exact Set.Subset.refl _
    constructor
    · intro loop' hloop'
      obtain rfl := hcontinues loop' hloop'
      rw [finalState_ok] at hfinal ⊢
      refine ⟨rfl, fun key => ?_, fun key route hroute => ?_⟩
      · rw [hfinal, slot_reordered hreordered key]
        exact hsound.wellFormed router key
      · have hactive := congrArg Slot.active (slot_reordered hreordered key)
        rw [hfinal] at hroute
        exact WithinReach.mono (hsound.routes router key route (hactive.symm.trans hroute)) hadded
    · intro transmission hmem data hdecode hresponse entry hentry hmetric
      rw [hfinal] at hmem
      exact WithinReach.mono (hsound.datagrams router transmission hmem data hdecode hresponse
        entry hentry hmetric) hadded

omit [RoutingTableDriver Driver] in
theorem DeamonSound.mono {added added' : Router → Set RipRouteKey} {wire : List Transmission}
    {router : Router} {deamon : RipDeamon Driver}
    (h : DeamonSound topology added wire router deamon)
    (hadded : ∀ router, added router ⊆ added' router) :
    DeamonSound topology added' wire router deamon :=
  ⟨h.sent, h.wellFormed, fun key route hroute => (h.routes key route hroute).mono hadded⟩

theorem Announces.mono {added added' : Router → Set RipRouteKey} {router : Router}
    {transmission : Transmission} (h : Announces topology added router transmission)
    (hadded : ∀ router, added router ⊆ added' router) :
    Announces topology added' router transmission :=
  fun data hdecode hresponse entry hentry hmetric =>
    (h data hdecode hresponse entry hentry hmetric).mono hadded

theorem StackSound.step {label : Router × ReceiveLabel Driver} (h : StackSound topology network)
    (hstep : StackStep topology network label network') : StackSound topology network' := by
  have hsent := fun router => (hstep.grows h router).1
  have hadded := fun router => (hstep.grows h router).2
  obtain ⟨router, label⟩ := label
  have hunderstood : ∀ transmission ∈ network'.wire router, Understood transmission.payload := by
    rw [hstep.wire]
    cases label with
    | pass label res =>
        obtain ⟨⟨loop, hloop, hpass⟩, -⟩ := pass_of_receiveStep hstep.moved
        refine pass_understood hpass fun transmission hmem => ?_
        rw [(h.deamons router loop hloop).sent] at hmem
        exact h.understood router transmission hmem
    | _ => exact h.understood router
  have hrouter : (∀ loop', (network'.systems router).loop = some loop' →
      DeamonSound topology network'.added (network'.wire router) router loop'.deamon) ∧
      ∀ transmission ∈ network'.wire router,
        Announces topology network'.added router transmission := by
    by_cases hpass : ∃ pass res, label = .pass pass res
    · obtain ⟨pass, res, rfl⟩ := hpass
      exact h.pass hstep
    · have hloop := loop_of_receiveStep hstep.moved fun pass res h => hpass ⟨pass, res, h⟩
      have hwire : network'.wire router = network.wire router := by
        rw [hstep.wire]
        cases label with
        | pass pass res => exact absurd ⟨pass, res, rfl⟩ hpass
        | _ => rfl
      rw [hwire, hloop]
      exact ⟨fun loop' hloop' => (h.deamons router loop' hloop').mono hadded,
        fun transmission hmem => (h.datagrams router transmission hmem).mono hadded⟩
  constructor
  · intro other
    by_cases hother : other = router
    · subst hother
      exact ((h.receives other).step h.understood hstep.received hstep.moved).mono hsent
    · rw [(hstep.others other hother).1]
      exact (h.receives other).mono hsent
  · intro other
    by_cases hother : other = router
    · exact hother ▸ hunderstood
    · rw [(hstep.others other hother).2.1]
      exact h.understood other
  · intro other
    by_cases hother : other = router
    · exact hother ▸ hrouter.1
    · obtain ⟨hsystem, hwire, -⟩ := hstep.others other hother
      rw [hsystem, hwire]
      exact fun loop' hloop' => (h.deamons other loop' hloop').mono hadded
  · intro other
    by_cases hother : other = router
    · exact hother ▸ hrouter.2
    · rw [(hstep.others other hother).2.1]
      exact fun transmission hmem => (h.datagrams other transmission hmem).mono hadded

omit [RoutingTableDriver Driver] in
theorem loopInitial_isLocal {loop : EventLoop Driver} (h : LoopInitial loop) {key : RipRouteKey}
    {route : RipDbEntry} (hroute : loop.deamon.database.okRoutes.lookup key = some route) :
    route.isLocal = true := by
  refine (loopInitial_keeps (I := fun database => ∀ key route,
    database.okRoutes.lookup key = some route → route.isLocal = true) ?_ ?_ h).1 key route hroute
  · intro key route hroute
    simp [RipDatabase.new] at hroute
  · intro network deamon hlocal key route hroute
    rcases setupAdvertisedNetwork_cases network deamon with
      ⟨⟨e, hrun⟩, -⟩ | ⟨localRoute, hvalid, hfree, hrun⟩
    · rw [hrun] at hroute
      exact hlocal key route hroute
    · have hslot := congrArg Slot.active (slot_adopt localRoute deamon.database key)
      rw [hrun] at hroute
      rw [slot_active] at hslot
      rw [finalState_ok, hslot] at hroute
      split_ifs at hroute
      · obtain rfl := Option.some.inj hroute
        rfl
      · exact hlocal key route hroute

theorem InitialStacks.sound (h : InitialStacks network) : StackSound topology network := by
  constructor
  · intro router
    obtain ⟨driver, host, ripCfg, sigterm, deamon, deamon', loop, -, -, -, htasks, hqueue, -⟩ :=
      h.systems router
    have hspawned : ∀ (i : ℕ) (sender : RxSender), (network.systems router).tasks[i]? =
        some sender → ∃ rxSocket, sender = RxSender.spawn rxSocket := by
      intro i sender htask
      rw [htasks, List.getElem?_map, Option.map_eq_some_iff] at htask
      obtain ⟨rxSocket, -, rfl⟩ := htask
      exact ⟨rxSocket, rfl⟩
    refine ⟨fun i sender htask => ?_, fun i sender packet htask hpacket => ?_, ?_⟩
    · obtain ⟨rxSocket, rfl⟩ := hspawned i sender htask
      exact List.length_replicate
    · obtain ⟨rxSocket, rfl⟩ := hspawned i sender htask
      simp [RxSender.spawn] at hpacket
    · simp [hqueue, Channel.empty]
  · simp [h.wire]
  · intro router loop hloop
    have hinitial := (h.systems router).loopInitial hloop
    have hwell := loop_wellFormed hinitial .nil
    refine ⟨(loopInitial_sent hinitial).trans (h.wire router).symm, hwell, ?_⟩
    intro key route hroute
    have hlocal := loopInitial_isLocal hinitial hroute
    refine ⟨router, ?_, ?_⟩
    · rw [h.added router loop hloop]
      exact ⟨route, hroute, hlocal⟩
    · rw [(((hwell key).active route hroute).isLocal hlocal).1]
      simp
  · simp [h.wire]

/-- In any network of routers as they run, however the steps of their tasks and loops
interleave, whatever fails, and whichever of them have shut down: a route that a router
has, and one that it has ever announced as reachable, has a metric above the distance
from some router that has added its destination, and so from the nearest one. -/
theorem run_withinReach {network₀ : StackNetwork Router Driver}
    {labels : List (Router × ReceiveLabel Driver)} (hinitial : InitialStacks network₀)
    (hrun : Run (StackStep topology) network₀ labels network) (router : Router) :
    (∀ loop key route, (network.systems router).loop = some loop →
      loop.deamon.database.okRoutes.lookup key = some route →
      WithinReach topology network.added router key route.ripEntry.metric ∧
      hops topology.graph {origin | key ∈ network.added origin} router + 1 ≤
        route.ripEntry.metric.toNat) ∧
    ∀ transmission ∈ network.wire router, ∀ data,
      RipPacketData.fromSlice transmission.payload = .ok (.ok data) → data.isResponse = true →
      ∀ entry ∈ data.entries, entry.metric < ripInfinityMetric →
        WithinReach topology network.added router (buildRouteKey entry) entry.metric := by
  have hsound : StackSound topology network := hrun.keeps (I := StackSound topology)
    (P := fun _ => True) (fun _ _ _ _ hsound hstep => hsound.step hstep) (by simp) hinitial.sound
  refine ⟨fun loop key route hloop hroute => ?_, hsound.datagrams router⟩
  have hreach := (hsound.deamons router loop hloop).routes key route hroute
  refine ⟨hreach, ?_⟩
  obtain ⟨origin, horigin, hdistance⟩ := hreach
  calc hops topology.graph {origin | key ∈ network.added origin} router + 1
      ≤ topology.graph.edist origin router + 1 := by
        gcongr
        exact hops_le_edist horigin
    _ ≤ route.ripEntry.metric.toNat := hdistance

end Soundness

theorem exists_stackStep [RoutingTableDriver Driver] (topology : Topology Router Link)
    (network : StackNetwork Router Driver) (router : Router) {label : ReceiveLabel Driver}
    {s' : ReceiveSystem Driver} (hmoved : ReceiveStep (network.systems router) label s')
    (hreceived : ∀ i datagram sender packet, label = .receive i (.ok datagram) →
      (network.systems router).tasks[i]? = some sender →
      receipt sender.task.rxSocket (.ok datagram) = some packet → packet.isResponse = true →
      OnLink topology network.wire router sender.task.rxSocket.ifIndex datagram.data) :
    ∃ network', StackStep topology network (router, label) network' ∧
      network'.systems router = s' ∧
      network'.wire router = sentAfter (network.wire router) label ∧
      ∀ other, other ≠ router → network'.systems other = network.systems other ∧
        network'.wire other = network.wire other := by
  classical
  refine ⟨{
    systems := Function.update network.systems router s'
    wire := Function.update network.wire router (sentAfter (network.wire router) label)
    added := Function.update network.added router
      (network.added router ∪ addedIn (network.systems router) label) }, ?_, ?_, ?_, ?_⟩
  · refine ⟨?_, hreceived, ?_, ?_, fun other hother => ⟨?_, ?_, ?_⟩⟩
    · simpa using hmoved
    · simp
    · simp
    · exact Function.update_of_ne hother _ _
    · exact Function.update_of_ne hother _ _
    · exact Function.update_of_ne hother _ _
  · simp
  · simp
  · exact fun other hother =>
      ⟨Function.update_of_ne hother _ _, Function.update_of_ne hother _ _⟩

def nearConfiguration : RipConfiguration where
  ripInterfaces := ["eth0", "eth1"]
  advertisedNetworks := [{ address := "10.1.0.0", prefixLen := 16, dev := "eth0" }]

def eth1Socket : RipSocket := { ifName := "eth1", ifIndex := 2 }

/-- Just started, on two interfaces each. -/
def startedPair (loop loop' : EventLoop Kernel) : StackNetwork Bool Kernel where
  systems router := {
    tasks := [RxSender.spawn eth0Socket, RxSender.spawn eth1Socket]
    queue := .empty
    loop := some (if router then loop' else loop) }
  wire _ := []
  added router := {key | ∃ route, (if router then loop' else loop).deamon.database.okRoutes.lookup
    key = some route ∧ route.isLocal = true}

def nearDatagram : Datagram where
  data := buildResponseBuffer steady.endian nearPacket.data.entries
  source := neighbourAddr

theorem receipt_nearDatagram : receipt eth1Socket (.ok nearDatagram) = some nearPacket := by
  have hfits : nearDatagram.data.take rxBufferSize = nearDatagram.data :=
    List.take_of_length_le (by decide)
  have hdecode : RipPacketData.fromSlice nearDatagram.data = .ok (.ok nearPacket.data) :=
    fromSlice_buildResponseBuffer steady.endian nearPacket.data.entries
  simp only [receipt, decoding, parseRxData, hfits, hdecode]
  rfl

theorem neighbour_withinReach :
    ∃ (network₀ : StackNetwork Bool Kernel) (labels : List (Bool × ReceiveLabel Kernel))
      (network : StackNetwork Bool Kernel) (loop : EventLoop Kernel) (route : RipDbEntry),
      InitialStacks network₀ ∧
      Run (StackStep oneLink) network₀ labels network ∧
      (network.systems true).loop = some loop ∧
      loop.deamon.database.okRoutes.lookup nearNetwork = some route ∧
      route.ripEntry.metric = 2 ∧
      WithinReach oneLink network.added true nearNetwork route.ripEntry.metric := by
  have hinterfaces : ∀ ripCfg, ripCfg = nearConfiguration ∨ ripCfg = twoInterfaces →
      (finalState ((setup (.ok ripCfg)).run (RipDeamon.new Kernel.empty
        { answers := steady, sent := [] }))).interfaces.filterMap RipIfc.rx =
          [eth0Socket, eth1Socket] := by
    rintro ripCfg (rfl | rfl) <;> decide +kernel
  have hany : (startLoop Kernel.empty { answers := steady, sent := [] } nearConfiguration).any
      (fun loop => (runPass loop (steady, .updateTimer)).any fun loop₁ =>
        decide (loop₁.deamon.host.sent = [RipSocket.multicast eth1Socket nearDatagram.data])) =
      true := by
    decide +kernel
  have hany' : (startLoop Kernel.empty { answers := steady, sent := [] } twoInterfaces).any
      (fun loop => (runPass loop (steady, .received (some nearPacket))).any fun loop₁ =>
        (loop₁.deamon.database.okRoutes.lookup nearNetwork).any fun route =>
          route.ripEntry.metric == 2) = true := by
    decide +kernel
  obtain ⟨loop, hstart, hnext⟩ := (Option.any_eq_true _ _).mp hany
  obtain ⟨loop₁, hadvertised, hon⟩ := (Option.any_eq_true _ _).mp hnext
  obtain ⟨loop', hstart', hnext'⟩ := (Option.any_eq_true _ _).mp hany'
  obtain ⟨loop₂, hlearned, hend⟩ := (Option.any_eq_true _ _).mp hnext'
  obtain ⟨route, hroute, hmetric⟩ := (Option.any_eq_true _ _).mp hend
  have hfirst := startLoop_receiveInitial rfl hstart
  have hsecond := startLoop_receiveInitial rfl hstart'
  rw [hinterfaces _ (.inl rfl)] at hfirst
  rw [hinterfaces _ (.inr rfl)] at hsecond
  have hinitial : InitialStacks (startedPair loop loop') := by
    refine ⟨fun router => ?_, fun _ => rfl, fun router loop'' hloop => ?_⟩
    · cases router
      · exact hfirst
      · exact hsecond
    · obtain rfl := Option.some.inj hloop
      rfl
  obtain ⟨network₁, hstep₁, -, hwire₁, hothers₁⟩ :=
    exists_stackStep oneLink (startedPair loop loop') false
      (.pass rfl (runPass_loopStep hadvertised) (by simp)) (by simp)
  have hwire : network₁.wire false = [RipSocket.multicast eth1Socket nearDatagram.data] :=
    hwire₁.trans (of_decide_eq_true hon)
  have hsystem₁ := (hothers₁ true (by decide)).1
  have htask : ((startedPair loop loop').systems true).tasks[1]? =
      some (RxSender.spawn eth1Socket) := rfl
  obtain ⟨s₂, s₃, s₄, hreceive, hsend, hhandle, hloop⟩ := ReceiveSystem.can_deliver rfl rfl htask
    rfl rfl List.length_replicate receipt_nearDatagram (runPass_loopStep hlearned)
  rw [← hsystem₁] at hreceive
  obtain ⟨network₂, hstep₂, rfl, -⟩ := exists_stackStep oneLink network₁ true hreceive (by
    intro i datagram sender packet hlabel htask _ _
    simp only [ReceiveLabel.receive.injEq, Except.ok.injEq] at hlabel
    obtain ⟨rfl, rfl⟩ := hlabel
    rw [hsystem₁] at htask
    obtain rfl := Option.some.inj htask
    exact ⟨false, RipSocket.multicast eth1Socket nearDatagram.data,
      hwire ▸ List.mem_singleton.mpr rfl, (), rfl, rfl, rfl⟩)
  obtain ⟨network₃, hstep₃, rfl, -⟩ := exists_stackStep oneLink network₂ true hsend (by simp)
  obtain ⟨network₄, hstep₄, rfl, -⟩ := exists_stackStep oneLink network₃ true hhandle (by simp)
  have hrun := (((Run.single hstep₁).snoc hstep₂).snoc hstep₃).snoc hstep₄
  exact ⟨_, _, network₄, loop₂, route, hinitial, hrun, hloop loop₂ rfl, hroute,
    by simpa using hmetric,
    ((run_withinReach hinitial hrun true).1 loop₂ nearNetwork route (hloop loop₂ rfl) hroute).1⟩

end RipV2.RouterStacks
