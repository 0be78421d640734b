import RipV2.ConfiguredStart
import RipV2.LoopSurvival
import RipV2.ReceivePath
import RipV2.SentDatagrams

namespace RipV2.Interoperation

open RipV2.ByteOrder
open RipV2.Channels
open RipV2.Chunks
open RipV2.ConfiguredStart
open RipV2.Database
open RipV2.Deamon
open RipV2.Deamon.RipDeamon
open RipV2.DeamonLoop
open RipV2.DeamonRuns
open RipV2.DestinationSlots
open RipV2.EffectLogic
open RipV2.HandlerRules
open RipV2.HeardEntries
open RipV2.HostEnvironment
open RipV2.KernelRoutes
open RipV2.LoopEvaluation
open RipV2.LoopPasses
open RipV2.LoopSurvival
open RipV2.Packets
open RipV2.ReachableRoutes
open RipV2.ReceivePath
open RipV2.ReceiveTask
open RipV2.Results
open RipV2.RoutingTables
open RipV2.SentDatagrams
open RipV2.TransitionRuns
open RipV2.Updater

/-- The datagram has at most 25 entries, and its packet is not refused. -/
structure Understood (payload : List UInt8) : Prop where
  short : payload.length ≤ 504
  decodes : ∃ data, RipPacketData.fromSlice payload = .ok (.ok data) ∧
    ∀ ifInfo source, refused { ifInfo, source, data } = false

theorem understood_requestBuffer (endian : Endian) : Understood (requestBuffer endian) := by
  refine ⟨?_, _, fromSlice_requestBuffer endian, fun _ _ => rfl⟩
  cases endian <;> decide

theorem understood_of_mem_buffers {endian : Endian} {database : RipDatabase}
    {targetIfIndex : UInt32} {changedOnly : Bool} {buffer : List UInt8}
    (h : buffer ∈ buildResponseBuffers endian database targetIfIndex changedOnly) :
    Understood buffer := by
  obtain ⟨entries, hchunk, rfl⟩ := List.mem_map.mp h
  refine ⟨?_, _, fromSlice_buildResponseBuffer endian entries, fun _ _ => rfl⟩
  have hentries : entries.length ≤ 25 := (length_of_mem_chunks (by decide) hchunk).2
  have hlength : (entries.flatMap fun entry => (entry.toBe endian).asBytes endian).length =
      entries.length * 20 := by
    simp [List.length_flatMap, ripEntrySize]
  rw [buildResponseBuffer_eq, List.length_append, RipHeader.asBytes_length, hlength, ripHeaderSize]
  omega

variable {Driver : Type} [RoutingTableDriver Driver]

omit [RoutingTableDriver Driver] in
theorem understood_datagrams {deamon : RipDeamon Driver} {event : DeamonEvent}
    {transmission : Transmission} (h : transmission ∈ datagrams deamon event) :
    Understood transmission.payload := by
  cases event with
  | received packet =>
      rw [datagrams] at h
      split_ifs at h
      · obtain ⟨buffer, hbuffer, rfl⟩ := List.mem_map.mp h
        exact understood_of_mem_buffers hbuffer
      · simp at h
  | advertise changedOnly =>
      obtain ⟨ifc, -, hon⟩ := List.mem_flatMap.mp h
      obtain ⟨buffer, hbuffer, rfl⟩ := List.mem_map.mp hon
      exact understood_of_mem_buffers hbuffer
  | sendRequests =>
      obtain ⟨ifc, -, rfl⟩ := List.mem_map.mp h
      exact understood_requestBuffer _
  | _ => simp [datagrams] at h

/-- Everything that the daemon has ever sent. -/
def AllUnderstood (deamon : RipDeamon Driver) : Prop :=
  ∀ transmission ∈ deamon.host.sent, Understood transmission.payload

omit [RoutingTableDriver Driver] in
theorem AllUnderstood.append {deamon deamon' : RipDeamon Driver} (h : AllUnderstood deamon)
    {sent : List Transmission} (hsent : deamon'.host.sent = deamon.host.sent ++ sent)
    (hnew : ∀ transmission ∈ sent, Understood transmission.payload) : AllUnderstood deamon' := by
  intro transmission hmem
  rw [hsent] at hmem
  rcases List.mem_append.mp hmem with hold | hmem
  · exact h transmission hold
  · exact hnew transmission hmem

theorem handle_understood (event : DeamonEvent) {deamon : RipDeamon Driver}
    (h : AllUnderstood deamon) : AllUnderstood (finalState (event.handle.run deamon)) := by
  obtain ⟨-, sent, hsent, hpart⟩ := handle_sendsPart event deamon
  exact h.append hsent fun transmission hmem => understood_datagrams (hpart.subset hmem)

omit [RoutingTableDriver Driver] in
theorem understood_quiet :
    Quiet fun deamon deamon' : RipDeamon Driver =>
      AllUnderstood deamon → AllUnderstood deamon' where
  refl _ := id
  trans _ _ _ h h' := h' ∘ h
  clock _ := id
  routingTable _ _ := id
  database _ _ _ := id

theorem handleShutdown_understood {deamon : RipDeamon Driver} (h : AllUnderstood deamon) :
    AllUnderstood (finalState (handleShutdown.run deamon)) := by
  have hquiet := @understood_quiet Driver
  refine (?_ : Evolves (fun deamon deamon' : RipDeamon Driver =>
    AllUnderstood deamon → AllUnderstood deamon') handleShutdown) deamon h
  rw [RipDeamon.handleShutdown]
  refine hquiet.bind hquiet.get fun _ => ?_
  refine hquiet.bind (hquiet.modifyDatabase fun _ => .poisonAllRoutes) fun _ => ?_
  refine hquiet.bind (evolves_attempt fun deamon h => ?_) fun _ => ?_
  · exact handle_understood (.advertise false) h
  · refine evolves_forM hquiet.refl hquiet.trans fun route _ => ?_
    exact hquiet.bind (evolves_attempt (hquiet.onRoutingTable _)) fun _ => hquiet.pure _

theorem pass_understood {loop : EventLoop Driver} {label : Answers × LoopEvent}
    {res : EStateM.Result RipError (EventLoop Driver) Control} (hpass : Pass loop label res)
    (h : AllUnderstood loop.deamon) : AllUnderstood (finalState res).deamon := by
  have hresumes : ∀ answers (deamon deamon' : RipDeamon Driver),
      Resumes answers deamon deamon' → AllUnderstood deamon → AllUnderstood deamon' := by
    rintro answers deamon deamon' ⟨database, -, rfl⟩ h
    exact h
  by_cases hstops : ∃ loop', res = .ok .stop loop'
  · obtain ⟨loop', rfl⟩ := hstops
    obtain ⟨deamon, hresumed, hshutdown⟩ := pass_stop hpass
    rw [finalState_ok, hshutdown]
    exact handleShutdown_understood (hresumes _ _ _ hresumed h)
  · refine pass_keeps hresumes (fun deamon deamon' hwaited h => ?_)
      (fun event deamon _ h => handle_understood event h) hpass
      (fun loop' hstop => hstops ⟨loop', hstop⟩) h
    rwa [AllUnderstood, hwaited.sent]

/-- A datagram of some daemon with this kind of driver, sent from an IPv4 address. -/
structure FromPeer (Driver : Type) [RoutingTableDriver Driver] (datagram : Datagram) : Prop where
  sent : ∃ (loop₀ loop : EventLoop Driver) (labels : List (Answers × LoopEvent))
    (label : Answers × LoopEvent) (res : EStateM.Result RipError (EventLoop Driver) Control),
    LoopInitial loop₀ ∧ Run LoopStep loop₀ labels loop ∧ Pass loop label res ∧
    ∃ transmission ∈ (finalState res).deamon.host.sent, transmission.payload = datagram.data
  source : ∃ addr, datagram.source = .v4 addr

theorem FromPeer.understood {datagram : Datagram} (h : FromPeer Driver datagram) :
    Understood datagram.data := by
  obtain ⟨loop₀, loop, labels, label, res, hinitial, hrun, hpass, transmission, hmem, hdata⟩ :=
    h.sent
  have hstart : AllUnderstood loop₀.deamon := by
    intro transmission hmem
    simp [loopInitial_sent hinitial] at hmem
  have hreached : AllUnderstood loop.deamon :=
    hrun.keeps (I := fun loop => AllUnderstood loop.deamon) (P := fun _ => True)
      (fun _ _ _ _ h hstep => pass_understood hstep h) (by simp) hstart
  rw [← hdata]
  exact pass_understood hpass hreached transmission hmem

theorem FromPeer.receipt {datagram : Datagram} (h : FromPeer Driver datagram)
    (rxSocket : RipSocket) :
    ∃ packet, receipt rxSocket (.ok datagram) = some packet ∧
      RipPacketData.fromSlice datagram.data = .ok (.ok packet.data) ∧
      datagram.source = .v4 packet.source ∧ refused packet = false := by
  obtain ⟨hshort, data, hdecode, haccepted⟩ := h.understood
  obtain ⟨addr, hsource⟩ := h.source
  have hfits : datagram.data.take rxBufferSize = datagram.data :=
    List.take_of_length_le (hshort.trans (by decide))
  refine ⟨{ ifInfo := ifInfoOf rxSocket, source := addr, data }, ?_, hdecode, hsource,
    haccepted _ _⟩
  simp [ReceivePath.receipt, decoding, parseRxData, hfits, hsource, hdecode, bind, Except.bind,
    pure, Except.pure]

/-- The run receives nothing but datagrams of peers. -/
def HearsPeers (Driver : Type) [RoutingTableDriver Driver]
    (labels : List (ReceiveLabel Driver)) : Prop :=
  ∀ i received, .receive i received ∈ labels →
    ∃ datagram, received = .ok datagram ∧ FromPeer Driver datagram

omit [RoutingTableDriver Driver] in
theorem mem_receivedBy {i : ℕ} {labels : List (ReceiveLabel Driver)}
    {received : Except String Datagram} (h : received ∈ receivedBy i labels) :
    .receive i received ∈ labels := by
  obtain ⟨label, hlabel, hreceived⟩ := List.mem_filterMap.mp h
  cases label with
  | receive j other =>
      by_cases hij : j = i
      · simp only [if_pos hij, Option.some.injEq] at hreceived
        rwa [← hreceived, ← hij]
      · simp [hij] at hreceived
  | _ => simp at hreceived

theorem peers_acceptedPackets (rxSocket : RipSocket) {received : List (Except String Datagram)}
    (h : ∀ next ∈ received, ∃ datagram, next = .ok datagram ∧ FromPeer Driver datagram) :
    List.Forall₂ (fun next packet => ∃ datagram, next = .ok datagram ∧
        RipPacketData.fromSlice datagram.data = .ok (.ok packet.data) ∧
        datagram.source = .v4 packet.source) received (acceptedPackets rxSocket received) := by
  induction received with
  | nil => exact .nil
  | cons next received ih =>
      obtain ⟨datagram, rfl, hpeer⟩ := h next List.mem_cons_self
      obtain ⟨packet, hpacket, hdecode, hsource, -⟩ := hpeer.receipt rxSocket
      have hrest := ih fun other hother => h other (List.mem_cons_of_mem _ hother)
      rw [acceptedPackets, List.takeWhile_cons_of_pos (by simp [hpacket]),
        List.filterMap_cons_some hpacket]
      exact .cons ⟨datagram, rfl, hdecode, hsource⟩ hrest

theorem HearsPeers.receipt_isSome {i : ℕ} {labels : List (ReceiveLabel Driver)}
    (h : HearsPeers Driver labels) (rxSocket : RipSocket) :
    ∀ received ∈ receivedBy i labels, (receipt rxSocket received).isSome = true := by
  intro received hmem
  obtain ⟨datagram, rfl, hpeer⟩ := h i received (mem_receivedBy hmem)
  obtain ⟨packet, hpacket, -⟩ := hpeer.receipt rxSocket
  simp [hpacket]

theorem HearsPeers.not_refused {labels : List (ReceiveLabel Driver)} (h : HearsPeers Driver labels)
    {s₀ s : ReceiveSystem Driver} {loop₀ : EventLoop Driver} (hinitial : ReceiveInitial s₀)
    (hloop : s₀.loop = some loop₀) (hrun : Run ReceiveStep s₀ labels s) {i : ℕ}
    {packet : RipPacket} (hsent : (i, packet) ∈ s.queue.sent) : refused packet = false := by
  obtain ⟨sender, -, hmem⟩ := run_accepted hinitial hloop hrun hsent
  obtain ⟨received, hreceived, hreceipt⟩ := receipt_of_mem_acceptedPackets hmem
  obtain ⟨datagram, rfl, hpeer⟩ := h i received (mem_receivedBy hreceived)
  obtain ⟨packet', hreceipt', -, -, haccepted⟩ := hpeer.receipt sender.task.rxSocket
  rwa [Option.some.inj (hreceipt.symm.trans hreceipt')]

/-- What daemons of this program send, whatever state each is in, has at most 504 bytes.
Among them no receiving task ends, every datagram becomes the packet that was sent, and with
at least one interface the loop does not end for want of tasks. Where nothing else fails a
packet ends it just if it withdraws a route whose destination is in garbage already. -/
theorem run_hears_peers {s₀ s : ReceiveSystem Driver} {loop₀ : EventLoop Driver}
    {labels : List (ReceiveLabel Driver)} (hinitial : ReceiveInitial s₀)
    (hloop : s₀.loop = some loop₀) (hrun : Run ReceiveStep s₀ labels s)
    (hpeers : HearsPeers Driver labels) :
    (∀ datagram, FromPeer Driver datagram → datagram.data.length ≤ 504) ∧
    (∀ (i : ℕ) (sender : RxSender), s.tasks[i]? = some sender → sender.task.running = true ∧
      List.Forall₂ (fun received packet => ∃ datagram, received = .ok datagram ∧
          RipPacketData.fromSlice datagram.data = .ok (.ok packet.data) ∧
          datagram.source = .v4 packet.source)
        (receivedBy i labels) (acceptedPackets sender.task.rxSocket (receivedBy i labels))) ∧
    (s.tasks ≠ [] → ∀ answers res s', ¬ReceiveStep s (.pass (answers, .received none) res) s') ∧
    (NeverFails Driver → ∀ loop i packet queue answers res, s.loop = some loop →
      s.queue.receive = some ((i, packet), queue) → answers.Reliable →
      Pass loop (answers, .received (some packet)) res →
      ((∃ loop', res = .ok .goOn loop') ↔ ∀ key,
        conflicts ((DeamonEvent.received packet).heard key) (slot loop.deamon.database key) =
          false)) := by
  have hdelivered := run_delivered hinitial hloop hrun
  have hrunning : ∀ (i : ℕ) (sender : RxSender), s.tasks[i]? = some sender →
      sender.task.running = true :=
    fun i sender htask => (hdelivered.tasks i sender htask).accepts.running.mpr
      (hpeers.receipt_isSome _)
  refine ⟨fun datagram hpeer => hpeer.understood.short,
    fun i sender htask => ⟨hrunning i sender htask, ?_⟩,
    fun htasks answers res s' hstep => ?_,
    fun hdriver loop i packet queue answers res hsome hreceive hreliable hpass => ?_⟩
  · exact peers_acceptedPackets _ fun next hnext => hpeers i next (mem_receivedBy hnext)
  · cases hstep with
    | pass hsome hpass hother => exact hother none rfl
    | closed hsome hended hempty hpass =>
        obtain ⟨sender, hmem⟩ := List.exists_mem_of_ne_nil _ htasks
        obtain ⟨i, htask⟩ := List.mem_iff_getElem?.mp hmem
        exact absurd (hrunning i sender htask) (by simp [hended sender hmem])
  · have hsent : (i, packet) ∈ s.queue.sent :=
      s.queue.pending_subset (Channel.pending_of_receive hreceive ▸ List.mem_cons_self)
    have haccepted := hpeers.not_refused hinitial hloop hrun hsent
    have hkeys := keysMatch_of_wellFormed
      (loop_wellFormed (hinitial.loopInitial hloop) (hdelivered.loop loop hsome))
    rw [pass_goesOn_iff hdriver hkeys ⟨hreliable, rfl⟩ hpass]
    simp [StopsLoop, haccepted]

theorem request_heard :
    ∃ (s₀ s : ReceiveSystem Kernel) (loop₀ : EventLoop Kernel) (datagram : Datagram),
      ReceiveInitial s₀ ∧ s₀.loop = some loop₀ ∧
      Run ReceiveStep s₀ [.receive 0 (.ok datagram)] s ∧
      HearsPeers Kernel [.receive 0 (.ok datagram)] ∧
      ∀ (i : ℕ) (sender : RxSender), s.tasks[i]? = some sender → sender.task.running = true := by
  let datagram : Datagram := { data := requestBuffer .little, source := neighbourAddr }
  have hinterfaces : (finalState ((setup (.ok twoInterfaces)).run
      (RipDeamon.new Kernel.empty { answers := steady, sent := [] }))).interfaces.filterMap
        RipIfc.rx = [eth0Socket, { ifName := "eth1", ifIndex := 2 }] := by
    decide +kernel
  have hany : (startLoop Kernel.empty { answers := steady, sent := [] } twoInterfaces).any
      (fun loop => (runPass loop (steady, .requestWarmupTimer)).any fun loop' =>
        loop'.deamon.host.sent.any fun transmission =>
          transmission.payload == datagram.data) = true := by
    decide +kernel
  obtain ⟨loop₀, hstart, hnext⟩ := (Option.any_eq_true _ _).mp hany
  obtain ⟨loop', hpass, hsent⟩ := (Option.any_eq_true _ _).mp hnext
  obtain ⟨transmission, hmem, hdata⟩ := List.any_eq_true.mp hsent
  have hinitial := startLoop_receiveInitial rfl hstart
  rw [hinterfaces] at hinitial
  have hpeer : FromPeer Kernel datagram :=
    ⟨⟨loop₀, loop₀, [], _, _, startLoop_initial rfl hstart, .nil, runPass_loopStep hpass,
      transmission, hmem, beq_iff_eq.mp hdata⟩, _, rfl⟩
  have hpeers : HearsPeers Kernel [.receive 0 (.ok datagram)] := by
    intro i received hreceived
    simp only [List.mem_singleton, ReceiveLabel.receive.injEq] at hreceived
    exact ⟨datagram, hreceived.2, hpeer⟩
  have hstep : ReceiveStep (⟨[RxSender.spawn eth0Socket,
      RxSender.spawn { ifName := "eth1", ifIndex := 2 }], .empty, some loop₀⟩ :
        ReceiveSystem Kernel) (.receive 0 (.ok datagram))
      ⟨[(RxSender.spawn eth0Socket).receive (.ok datagram),
        RxSender.spawn { ifName := "eth1", ifIndex := 2 }], .empty, some loop₀⟩ :=
    .receive _ rfl rfl rfl
  have hrun := Run.single hstep
  exact ⟨_, _, loop₀, datagram, hinitial, rfl, hrun, hpeers, fun i sender htask =>
    ((run_hears_peers hinitial rfl hrun hpeers).2.1 i sender htask).1⟩

end RipV2.Interoperation
