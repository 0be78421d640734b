import RipV2.Channels
import RipV2.LoopEvaluation
import RipV2.ReceiveTask

/-!
From the sockets to the loop: each receiving task puts its packets into one bounded
channel, from which the loop takes them.
-/

namespace RipV2.ReceivePath

open RipV2.Channels
open RipV2.Deamon
open RipV2.DeamonLoop
open RipV2.DeamonLoop.EventLoop
open RipV2.EffectLogic
open RipV2.HostEnvironment
open RipV2.KernelRoutes
open RipV2.LoopEvaluation
open RipV2.LoopPasses
open RipV2.Packets
open RipV2.ReceiveTask
open RipV2.Results
open RipV2.RoutingTables
open RipV2.TransitionRuns
open RipV2.Updater

/-- The packet that a task makes of what it receives, if it goes on. The buffer cuts
longer datagrams off. -/
def receipt (rxSocket : RipSocket) : Except String Datagram → Option RipPacket
  | .error _ => none
  | .ok datagram => decoding rxSocket { datagram with data := datagram.data.take rxBufferSize }

/-- The packets up to the first failure. -/
def acceptedPackets (rxSocket : RipSocket) (received : List (Except String Datagram)) :
    List RipPacket :=
  (received.takeWhile fun next => (receipt rxSocket next).isSome).filterMap (receipt rxSocket)

/-- The task has got as far as what it has received lets it. -/
structure Accepts (rxSocket : RipSocket) (received : List (Except String Datagram))
    (task : RxTask) : Prop where
  socket : task.rxSocket = rxSocket
  buffer : task.buffer.length = rxBufferSize
  handed : task.handed = acceptedPackets rxSocket received
  running : task.running = true ↔ ∀ next ∈ received, (receipt rxSocket next).isSome = true

section OneTask

variable {rxSocket : RipSocket} {received : List (Except String Datagram)} {task : RxTask}

theorem accepts_spawn (rxSocket : RipSocket) : Accepts rxSocket [] (RxTask.spawn rxSocket) :=
  ⟨rfl, List.length_replicate, rfl, by simp [RxTask.spawn]⟩

theorem acceptedPackets_append (h : ∀ next ∈ received, (receipt rxSocket next).isSome = true)
    (next : Except String Datagram) :
    acceptedPackets rxSocket (received ++ [next]) =
      acceptedPackets rxSocket received ++ (receipt rxSocket next).toList := by
  have htake : (received.takeWhile fun next => (receipt rxSocket next).isSome) = received :=
    List.takeWhile_eq_self_iff.mpr h
  rw [acceptedPackets, acceptedPackets, List.takeWhile_append_of_pos h, List.filterMap_append,
    htake]
  cases hreceipt : receipt rxSocket next with
  | none => simp [hreceipt]
  | some packet => simp [hreceipt]

theorem receipt_of_mem_acceptedPackets {packet : RipPacket}
    (h : packet ∈ acceptedPackets rxSocket received) :
    ∃ next ∈ received, receipt rxSocket next = some packet := by
  obtain ⟨next, hnext, hpacket⟩ := List.mem_filterMap.mp h
  exact ⟨next, (List.takeWhile_sublist _).subset hnext, hpacket⟩

theorem turn_cut (task : RxTask) (datagram : Datagram) :
    task.turn (.ok datagram) =
      task.turn (.ok { datagram with data := datagram.data.take task.buffer.length }) := by
  simp only [RxTask.turn, recvFrom, List.take_take, Nat.min_self]

theorem turn_receipt (h : Receiving rxSocket rxBufferSize task) (next : Except String Datagram) :
    (task.turn next).handed = task.handed ++ (receipt rxSocket next).toList ∧
      (task.turn next).running = (receipt rxSocket next).isSome ∧
      (task.turn next).rxSocket = rxSocket ∧ (task.turn next).buffer.length = rxBufferSize := by
  cases next with
  | error e => simp [RxTask.turn, receipt, h.running, h.rxSocket, h.buffer]
  | ok datagram =>
      rw [turn_cut, h.buffer]
      have hlength : (datagram.data.take rxBufferSize).length ≤ rxBufferSize :=
        List.length_take_le _ _
      cases hdecoding : decoding rxSocket
          { datagram with data := datagram.data.take rxBufferSize } with
      | some packet =>
          obtain ⟨hreceiving, hhanded⟩ := turn_of_decoding h hlength hdecoding
          rw [receipt, hdecoding]
          exact ⟨hhanded, hreceiving.running, hreceiving.rxSocket, hreceiving.buffer⟩
      | none =>
          obtain ⟨hended, hhanded⟩ := turn_of_rejected h hlength hdecoding
          rw [receipt, hdecoding]
          refine ⟨by simp [hhanded], hended, ?_⟩
          simp only [RxTask.turn, h.running, Bool.not_true, Bool.false_eq_true, if_false]
          split
          all_goals exact ⟨h.rxSocket, (recvFrom_length _ _).trans h.buffer⟩

theorem Accepts.turn (h : Accepts rxSocket received task) (hrunning : task.running = true)
    (next : Except String Datagram) : Accepts rxSocket (received ++ [next]) (task.turn next) := by
  have hall := h.running.mp hrunning
  obtain ⟨hhanded, hgoes, hsocket, hbuffer⟩ := turn_receipt ⟨h.socket, h.buffer, hrunning⟩ next
  refine ⟨hsocket, hbuffer, ?_, ?_⟩
  · rw [hhanded, h.handed, acceptedPackets_append hall]
  · rw [hgoes]
    constructor
    · intro hsome other hother
      rcases List.mem_append.mp hother with hold | hnew
      · exact hall other hold
      · rwa [List.mem_singleton.mp hnew]
    · exact fun hsome => hsome next (by simp)

end OneTask

/-- A task, and the packet for which it waits until the channel has room. -/
structure RxSender where
  task : RxTask
  outgoing : Option RipPacket

def RxSender.spawn (rxSocket : RipSocket) : RxSender where
  task := RxTask.spawn rxSocket
  outgoing := none

/-- A turn up to the point where the packet that it hands over goes to the channel. -/
def RxSender.receive (sender : RxSender) (received : Except String Datagram) : RxSender where
  task := sender.task.turn received
  outgoing := (sender.task.turn received).handed[sender.task.handed.length]?

/-- The tasks of the daemon, in the order of its interfaces. In the channel a packet is
marked with the number of its task, which the loop does not see. -/
structure ReceiveSystem (Driver : Type) where
  tasks : List RxSender
  queue : Channel (ℕ × RipPacket) 64
  loop : Option (EventLoop Driver)

/-- A pass of the loop comes with its result. -/
inductive ReceiveLabel (Driver : Type) where
  | receive (i : ℕ) (received : Except String Datagram)
  | send (i : ℕ)
  | lose (i : ℕ)
  | pass (label : Answers × LoopEvent) (res : EStateM.Result RipError (EventLoop Driver) Control)

variable {Driver : Type}

/-- A pass that goes on leaves a loop. -/
def ReceiveSystem.afterPass (s : ReceiveSystem Driver)
    (res : EStateM.Result RipError (EventLoop Driver) Control) : ReceiveSystem Driver :=
  match res with
  | .ok .goOn loop => { s with loop := some loop }
  | _ => { s with loop := none }

def ReceiveSystem.withTask (s : ReceiveSystem Driver) (i : ℕ) (sender : RxSender) :
    ReceiveSystem Driver :=
  { s with tasks := s.tasks.set i sender }

section Steps

variable [RoutingTableDriver Driver]

/-- One step of the tasks and the loop, in any order. -/
inductive ReceiveStep :
    ReceiveSystem Driver → ReceiveLabel Driver → ReceiveSystem Driver → Prop
  | receive {s : ReceiveSystem Driver} {i : ℕ} {sender : RxSender}
      (received : Except String Datagram) (htask : s.tasks[i]? = some sender)
      (hrunning : sender.task.running = true) (hidle : sender.outgoing = none) :
      ReceiveStep s (.receive i received) (s.withTask i (sender.receive received))
  | send {s : ReceiveSystem Driver} {i : ℕ} {sender : RxSender} {packet : RipPacket}
      {queue : Channel (ℕ × RipPacket) 64} (htask : s.tasks[i]? = some sender)
      (hpacket : sender.outgoing = some packet) (hloop : s.loop ≠ none)
      (hsend : s.queue.send (i, packet) = some queue) :
      ReceiveStep s (.send i) { s.withTask i { sender with outgoing := none } with queue }
  | lose {s : ReceiveSystem Driver} {i : ℕ} {sender : RxSender} {packet : RipPacket}
      (htask : s.tasks[i]? = some sender) (hpacket : sender.outgoing = some packet)
      (hloop : s.loop = none) :
      ReceiveStep s (.lose i) (s.withTask i { sender with outgoing := none })
  | handle {s : ReceiveSystem Driver} {loop : EventLoop Driver} {i : ℕ} {packet : RipPacket}
      {queue : Channel (ℕ × RipPacket) 64} {answers : Answers}
      {res : EStateM.Result RipError (EventLoop Driver) Control} (hloop : s.loop = some loop)
      (hreceive : s.queue.receive = some ((i, packet), queue))
      (hpass : Pass loop (answers, .received (some packet)) res) :
      ReceiveStep s (.pass (answers, .received (some packet)) res)
        (ReceiveSystem.afterPass { s with queue } res)
  | pass {s : ReceiveSystem Driver} {loop : EventLoop Driver} {label : Answers × LoopEvent}
      {res : EStateM.Result RipError (EventLoop Driver) Control} (hloop : s.loop = some loop)
      (hpass : Pass loop label res) (hother : ∀ packet, label.2 ≠ .received packet) :
      ReceiveStep s (.pass label res) (s.afterPass res)
  | closed {s : ReceiveSystem Driver} {loop : EventLoop Driver} {answers : Answers}
      {res : EStateM.Result RipError (EventLoop Driver) Control} (hloop : s.loop = some loop)
      (hended : ∀ sender ∈ s.tasks, sender.task.running = false)
      (hempty : s.queue.pending = []) (hpass : Pass loop (answers, .received none) res) :
      ReceiveStep s (.pass (answers, .received none) res) (s.afterPass res)

end Steps

/-- The tasks are spawned on a daemon that has just been set up, before its loop. -/
def ReceiveInitial (s : ReceiveSystem Driver) : Prop :=
  ∃ driver host ripCfg sigterm deamon deamon' loop, host.sent = [] ∧
    (setup ripCfg).run (RipDeamon.new driver host) = .ok () deamon ∧
    (enter sigterm).run deamon = .ok loop deamon' ∧
    s.tasks = (deamon.interfaces.filterMap RipIfc.rx).map RxSender.spawn ∧
    s.queue = .empty ∧ s.loop = some loop

theorem ReceiveInitial.loopInitial {s : ReceiveSystem Driver} {loop : EventLoop Driver}
    (h : ReceiveInitial s) (hloop : s.loop = some loop) : LoopInitial loop := by
  obtain ⟨driver, host, ripCfg, sigterm, deamon, deamon', loop', hsent, hsetup, henter, -, -,
    hloop'⟩ := h
  obtain rfl := Option.some.inj (hloop.symm.trans hloop')
  exact ⟨driver, host, ripCfg, sigterm, deamon, deamon', hsent, hsetup, henter⟩

/-- What the task has received. -/
def receivedBy (i : ℕ) (labels : List (ReceiveLabel Driver)) : List (Except String Datagram) :=
  labels.filterMap fun
    | .receive j received => if j = i then some received else none
    | _ => none

/-- The passes of the loop. -/
def passes (labels : List (ReceiveLabel Driver)) : List (Answers × LoopEvent) :=
  labels.filterMap fun
    | .pass label _ => some label
    | _ => none

def handledPacket : Answers × LoopEvent → Option RipPacket
  | (_, .received packet) => packet
  | _ => none

/-- The packets of one task among those of all. -/
def packetsOf (i : ℕ) (packets : List (ℕ × RipPacket)) : List RipPacket :=
  packets.filterMap fun packet => if packet.1 = i then some packet.2 else none

@[simp] theorem receivedBy_append (i : ℕ) (labels labels' : List (ReceiveLabel Driver)) :
    receivedBy i (labels ++ labels') = receivedBy i labels ++ receivedBy i labels' :=
  List.filterMap_append

@[simp] theorem passes_append (labels labels' : List (ReceiveLabel Driver)) :
    passes (labels ++ labels') = passes labels ++ passes labels' :=
  List.filterMap_append

@[simp] theorem packetsOf_append (i : ℕ) (packets packets' : List (ℕ × RipPacket)) :
    packetsOf i (packets ++ packets') = packetsOf i packets ++ packetsOf i packets' :=
  List.filterMap_append

@[simp] theorem packetsOf_single (i j : ℕ) (packet : RipPacket) :
    packetsOf i [(j, packet)] = if j = i then [packet] else [] := by
  by_cases h : j = i <;> simp [packetsOf, h]

/-- What one task has accepted went into the channel, in order; the last packet may still
wait, and only the end of the loop makes a packet disappear. -/
structure Delivering (i : ℕ) (labels : List (ReceiveLabel Driver)) (s : ReceiveSystem Driver)
    (sender : RxSender) : Prop where
  accepts : Accepts sender.task.rxSocket (receivedBy i labels) sender.task
  ended : sender.task.running = false → sender.outgoing = none
  sent : packetsOf i s.queue.sent <+: sender.task.handed
  complete : s.loop ≠ none →
    sender.task.handed = packetsOf i s.queue.sent ++ sender.outgoing.toList

/-- The invariant: the loop has run on what was taken from the channel, and each task has put into
it what its socket received, up to where it is. -/
structure Delivered (loop₀ : EventLoop Driver) [RoutingTableDriver Driver]
    (labels : List (ReceiveLabel Driver)) (s : ReceiveSystem Driver) : Prop where
  loop : ∀ loop, s.loop = some loop → Run LoopStep loop₀ (passes labels) loop
  taken : s.queue.taken.map Prod.snd = (passes labels).filterMap handledPacket
  tasks : ∀ i sender, s.tasks[i]? = some sender → Delivering i labels s sender

section Delivery

variable {labels : List (ReceiveLabel Driver)} {s s' : ReceiveSystem Driver} {i : ℕ}
  {sender : RxSender}

theorem RxSender.receive_outgoing {rxSocket : RipSocket}
    (h : Receiving rxSocket rxBufferSize sender.task) (received : Except String Datagram) :
    (sender.receive received).outgoing = receipt rxSocket received := by
  obtain ⟨hhanded, -⟩ := turn_receipt h received
  simp only [RxSender.receive, hhanded, List.getElem?_append_right (Nat.le_refl _), Nat.sub_self]
  cases receipt rxSocket received <;> rfl

theorem Delivering.receive (h : Delivering i labels s sender)
    (hrunning : sender.task.running = true) (hidle : sender.outgoing = none)
    (received : Except String Datagram) (hqueue : s'.queue = s.queue) (hloop : s'.loop = s.loop) :
    Delivering i (labels ++ [.receive i received]) s' (sender.receive received) := by
  have hreceiving : Receiving sender.task.rxSocket rxBufferSize sender.task :=
    ⟨rfl, h.accepts.buffer, hrunning⟩
  obtain ⟨hhanded, hgoes, hsocket, -⟩ := turn_receipt hreceiving received
  have hreceived : receivedBy i (labels ++ [.receive i received]) =
      receivedBy i labels ++ [received] := by
    simp [receivedBy]
  have houtgoing := RxSender.receive_outgoing hreceiving received
  constructor
  · rw [hreceived, RxSender.receive, hsocket]
    exact h.accepts.turn hrunning received
  · intro hended
    rw [houtgoing]
    rw [RxSender.receive, hgoes] at hended
    simpa using hended
  · rw [hqueue]
    exact h.sent.trans ⟨_, hhanded.symm⟩
  · intro hgoes
    have hcomplete := h.complete (hloop ▸ hgoes)
    rw [hidle, Option.toList_none, List.append_nil] at hcomplete
    rw [houtgoing, RxSender.receive, hhanded, hcomplete, hqueue]

theorem Delivering.mono (h : Delivering i labels s sender) {label : ReceiveLabel Driver}
    (hlabel : ∀ received, label ≠ .receive i received)
    (hsent : packetsOf i s'.queue.sent = packetsOf i s.queue.sent)
    (hloop : s'.loop ≠ none → s.loop ≠ none) :
    Delivering i (labels ++ [label]) s' sender := by
  have hreceived : receivedBy i (labels ++ [label]) = receivedBy i labels := by
    rw [receivedBy_append]
    cases label with
    | receive j received =>
        have hother : j ≠ i := by
          rintro rfl
          exact hlabel received rfl
        simp [receivedBy, hother]
    | _ => exact List.append_nil _
  refine ⟨hreceived ▸ h.accepts, h.ended, hsent ▸ h.sent, fun hgoes => ?_⟩
  rw [hsent]
  exact h.complete (hloop hgoes)

theorem Delivering.send (h : Delivering i labels s sender) {packet : RipPacket}
    (hpacket : sender.outgoing = some packet) (hloop : s.loop ≠ none)
    (hsent : packetsOf i s'.queue.sent = packetsOf i s.queue.sent ++ [packet]) :
    Delivering i (labels ++ [.send i]) s' { sender with outgoing := none } := by
  have hcomplete := h.complete hloop
  rw [hpacket, Option.toList_some, ← hsent] at hcomplete
  refine ⟨?_, fun _ => rfl, hcomplete ▸ List.prefix_refl _, fun _ => ?_⟩
  · simpa [receivedBy] using h.accepts
  · rw [hcomplete, Option.toList_none, List.append_nil]

theorem Delivering.lose (h : Delivering i labels s sender) (hloop : s'.loop = none)
    (hqueue : s'.queue = s.queue) :
    Delivering i (labels ++ [.lose i]) s' { sender with outgoing := none } := by
  refine ⟨?_, fun _ => rfl, hqueue ▸ h.sent, fun hgoes => absurd hloop hgoes⟩
  simpa [receivedBy] using h.accepts

theorem tasks_withTask {j : ℕ} {sender' : RxSender}
    (h : (s.withTask i sender).tasks[j]? = some sender') :
    j = i ∧ sender' = sender ∨ j ≠ i ∧ s.tasks[j]? = some sender' := by
  simp only [ReceiveSystem.withTask, List.getElem?_set] at h
  split_ifs at h with hij hlt
  · exact .inl ⟨hij.symm, (Option.some.inj h).symm⟩
  · exact .inr ⟨fun hji => hij hji.symm, h⟩

theorem afterPass_cases (s : ReceiveSystem Driver)
    (res : EStateM.Result RipError (EventLoop Driver) Control) :
    (∃ loop, res = .ok .goOn loop ∧ s.afterPass res = { s with loop := some loop }) ∨
      (∀ loop, res ≠ .ok .goOn loop) ∧ s.afterPass res = { s with loop := none } := by
  rcases res with ⟨control, loop⟩ | ⟨e, loop⟩
  · cases control with
    | goOn => exact .inl ⟨loop, rfl, rfl⟩
    | stop => exact .inr ⟨by simp, rfl⟩
  · exact .inr ⟨by simp, rfl⟩

variable [RoutingTableDriver Driver] {loop₀ : EventLoop Driver}

theorem Delivered.pass (h : Delivered loop₀ labels s) {loop : EventLoop Driver}
    {label : Answers × LoopEvent} {res : EStateM.Result RipError (EventLoop Driver) Control}
    {queue : Channel (ℕ × RipPacket) 64} (hloop : s.loop = some loop)
    (hpass : Pass loop label res) (hsent : queue.sent = s.queue.sent)
    (htaken : queue.taken.map Prod.snd =
      s.queue.taken.map Prod.snd ++ (handledPacket label).toList) :
    Delivered loop₀ (labels ++ [.pass label res])
      (ReceiveSystem.afterPass { s with queue } res) := by
  have hpasses : passes (labels ++ [.pass label res]) = passes labels ++ [label] := by
    simp [passes]
  have hhandled : queue.taken.map Prod.snd =
      (passes (labels ++ [.pass label res])).filterMap handledPacket := by
    rw [htaken, h.taken, hpasses, List.filterMap_append]
    cases hpacket : handledPacket label <;> simp [hpacket]
  have htasks : ∀ s' : ReceiveSystem Driver, s'.tasks = s.tasks → s'.queue = queue →
      ∀ i sender, s'.tasks[i]? = some sender →
        Delivering i (labels ++ [.pass label res]) s' sender := by
    intro s' htasks hqueue i sender htask
    rw [htasks] at htask
    refine (h.tasks i sender htask).mono (by simp) ?_ (by simp [hloop])
    rw [hqueue, hsent]
  rcases afterPass_cases { s with queue } res with ⟨loop', rfl, hafter⟩ | ⟨-, hafter⟩
  · rw [hafter]
    refine ⟨fun loop'' hloop'' => ?_, hhandled, htasks _ rfl rfl⟩
    obtain rfl := Option.some.inj hloop''
    rw [hpasses]
    exact .snoc (h.loop loop hloop) hpass
  · rw [hafter]
    exact ⟨by simp, hhandled, htasks _ rfl rfl⟩

theorem Delivered.move (h : Delivered loop₀ labels s) {label : ReceiveLabel Driver}
    (hlabel : ∀ pass res, label ≠ .pass pass res) (hloop : s'.loop = s.loop)
    (htaken : s'.queue.taken = s.queue.taken)
    (htasks : ∀ i sender, s'.tasks[i]? = some sender →
      Delivering i (labels ++ [label]) s' sender) : Delivered loop₀ (labels ++ [label]) s' := by
  have hpasses : passes (labels ++ [label]) = passes labels := by
    rw [passes_append]
    cases label with
    | pass label res => exact absurd rfl (hlabel label res)
    | _ => exact List.append_nil _
  constructor
  · rw [hpasses, hloop]
    exact h.loop
  · rw [hpasses, htaken]
    exact h.taken
  · exact htasks

theorem Delivered.step (h : Delivered loop₀ labels s) {label : ReceiveLabel Driver}
    (hstep : ReceiveStep s label s') : Delivered loop₀ (labels ++ [label]) s' := by
  cases hstep with
  | @receive i sender received htask hrunning hidle =>
      refine h.move (by simp) rfl rfl fun j sender' hj => ?_
      rcases tasks_withTask hj with ⟨rfl, rfl⟩ | ⟨hother, hj⟩
      · exact (h.tasks j sender htask).receive hrunning hidle received rfl rfl
      · refine (h.tasks j sender' hj).mono ?_ rfl id
        simp [hother.symm]
  | @send i sender packet queue htask hpacket hloop hsend =>
      have hsent := Channel.sent_of_send hsend
      refine h.move (by simp) rfl (Channel.taken_of_send hsend) fun j sender' hj => ?_
      rcases tasks_withTask hj with ⟨rfl, rfl⟩ | ⟨hother, hj⟩
      · exact (h.tasks j sender htask).send hpacket hloop (by simp [hsent])
      · exact (h.tasks j sender' hj).mono (by simp) (by simp [hsent, hother.symm]) id
  | @lose i sender packet htask hpacket hloop =>
      refine h.move (by simp) rfl rfl fun j sender' hj => ?_
      rcases tasks_withTask hj with ⟨rfl, rfl⟩ | ⟨hother, hj⟩
      · exact (h.tasks j sender htask).lose hloop rfl
      · exact (h.tasks j sender' hj).mono (by simp) rfl id
  | handle hloop hreceive hpass =>
      refine h.pass hloop hpass (Channel.sent_of_receive hreceive) ?_
      rw [Channel.taken_of_receive hreceive, List.map_append]
      rfl
  | @pass loop label res hloop hpass hother =>
      have hnone : handledPacket label = none := by
        obtain ⟨answers, event⟩ := label
        cases event with
        | received packet => exact absurd rfl (hother packet)
        | _ => rfl
      exact h.pass hloop hpass rfl (by simp [hnone])
  | closed hloop hended hempty hpass => exact h.pass hloop hpass rfl (by simp [handledPacket])

omit [RoutingTableDriver Driver] in
theorem delivering_spawn {rxSocket : RipSocket} {s : ReceiveSystem Driver}
    (hqueue : s.queue = .empty) : Delivering i [] s (RxSender.spawn rxSocket) := by
  refine ⟨accepts_spawn rxSocket, fun _ => rfl, ?_, fun _ => ?_⟩
  · rw [hqueue]
    exact List.nil_prefix
  · rw [hqueue]
    rfl

theorem run_delivered {s₀ : ReceiveSystem Driver} (hinitial : ReceiveInitial s₀)
    (hloop : s₀.loop = some loop₀) (hrun : Run ReceiveStep s₀ labels s) :
    Delivered loop₀ labels s := by
  induction hrun with
  | nil =>
      obtain ⟨-, -, -, -, deamon, -, -, -, -, -, htasks, hqueue, -⟩ := hinitial
      refine ⟨fun loop hloop' => ?_, ?_, fun i sender htask => ?_⟩
      · obtain rfl := Option.some.inj (hloop.symm.trans hloop')
        exact .nil
      · rw [hqueue]
        rfl
      · rw [htasks, List.getElem?_map, Option.map_eq_some_iff] at htask
        obtain ⟨rxSocket, -, rfl⟩ := htask
        exact delivering_spawn hqueue
  | snoc _ hstep ih => exact ih.step hstep

theorem step_marked {label : ReceiveLabel Driver} (hstep : ReceiveStep s label s')
    (h : ∀ packet ∈ s.queue.sent, packet.1 < s.tasks.length) :
    ∀ packet ∈ s'.queue.sent, packet.1 < s'.tasks.length := by
  have hafter : ∀ (s : ReceiveSystem Driver) res, (s.afterPass res).tasks = s.tasks ∧
      (s.afterPass res).queue = s.queue := by
    intro s res
    rcases afterPass_cases s res with ⟨loop, -, hafter⟩ | ⟨-, hafter⟩ <;> simp [hafter]
  cases hstep with
  | receive received htask hrunning hidle => simpa [ReceiveSystem.withTask] using h
  | @send i sender packet queue htask hpacket hloop hsend =>
      obtain ⟨hlt, -⟩ := List.getElem?_eq_some_iff.mp htask
      simpa [ReceiveSystem.withTask, Channel.sent_of_send hsend, or_imp, forall_and, hlt] using h
  | lose htask hpacket hloop => simpa [ReceiveSystem.withTask] using h
  | handle hloop hreceive hpass =>
      simpa [hafter, Channel.sent_of_receive hreceive] using h
  | pass hloop hpass hother => simpa [hafter] using h
  | closed hloop hended hempty hpass => simpa [hafter] using h

theorem run_accepted {s₀ : ReceiveSystem Driver} (hinitial : ReceiveInitial s₀)
    (hloop : s₀.loop = some loop₀) (hrun : Run ReceiveStep s₀ labels s) {packet : RipPacket}
    (hsent : (i, packet) ∈ s.queue.sent) :
    ∃ sender, s.tasks[i]? = some sender ∧
      packet ∈ acceptedPackets sender.task.rxSocket (receivedBy i labels) := by
  have hmarked : ∀ packet ∈ s.queue.sent, packet.1 < s.tasks.length := by
    refine hrun.keeps (P := fun _ => True) (fun _ _ _ _ h hstep => step_marked hstep h)
      (by simp) ?_
    obtain ⟨-, -, -, -, -, -, -, -, -, -, -, hqueue, -⟩ := hinitial
    simp [hqueue, Channel.empty]
  have htask := List.getElem?_eq_getElem (hmarked _ hsent)
  have hdelivering := (run_delivered hinitial hloop hrun).tasks _ _ htask
  refine ⟨_, htask, ?_⟩
  rw [← hdelivering.accepts.handed]
  exact hdelivering.sent.subset (List.mem_filterMap.mpr ⟨_, hsent, by simp⟩)

theorem ReceiveSystem.can_handle {loop : EventLoop Driver} (hloop : s.loop = some loop)
    (hpending : s.queue.pending ≠ []) (answers : Answers) :
    ∃ i packet res s', s.queue.pending.head? = some (i, packet) ∧
      ReceiveStep s (.pass (answers, .received (some packet)) res) s' := by
  obtain ⟨⟨⟨i, packet⟩, queue⟩, hreceive⟩ :=
    Option.isSome_iff_exists.mp (Channel.receive_isSome_iff.mpr hpending)
  obtain ⟨res, hpass⟩ := @exists_pass Driver _ loop (answers, .received (some packet)) rfl
  refine ⟨i, packet, res, _, ?_, .handle hloop hreceive hpass⟩
  rw [Channel.pending_of_receive hreceive]
  rfl

/-- Where nothing else is on the way, a packet can be received, sent and handled. -/
theorem ReceiveSystem.can_deliver {loop : EventLoop Driver} {received : Except String Datagram}
    {packet : RipPacket} {answers : Answers}
    {res : EStateM.Result RipError (EventLoop Driver) Control}
    (hloop : s.loop = some loop) (hempty : s.queue.pending = [])
    (htask : s.tasks[i]? = some sender) (hrunning : sender.task.running = true)
    (hidle : sender.outgoing = none) (hbuffer : sender.task.buffer.length = rxBufferSize)
    (hreceipt : receipt sender.task.rxSocket received = some packet)
    (hpass : Pass loop (answers, .received (some packet)) res) :
    ∃ s₁ s₂ s₃, ReceiveStep s (.receive i received) s₁ ∧ ReceiveStep s₁ (.send i) s₂ ∧
      ReceiveStep s₂ (.pass (answers, .received (some packet)) res) s₃ ∧
      ∀ loop', res = .ok .goOn loop' → s₃.loop = some loop' := by
  have houtgoing : (sender.receive received).outgoing = some packet := by
    rw [← hreceipt]
    exact RxSender.receive_outgoing ⟨rfl, hbuffer, hrunning⟩ received
  have hlt := (List.getElem?_eq_some_iff.mp htask).1
  have htask₁ : (s.withTask i (sender.receive received)).tasks[i]? =
      some (sender.receive received) := by
    simp [ReceiveSystem.withTask, hlt]
  have hroom : s.queue.pending.length < 64 := by simp [hempty]
  obtain ⟨queue, hsend⟩ :=
    Option.isSome_iff_exists.mp (Channel.send_isSome_iff (a := (i, packet)) |>.mpr hroom)
  have hpending : queue.pending = [(i, packet)] := by
    rw [Channel.pending_of_send hsend, hempty, List.nil_append]
  have hne : queue.pending ≠ [] := by simp [hpending]
  obtain ⟨⟨⟨j, packet'⟩, queue'⟩, hreceive⟩ :=
    Option.isSome_iff_exists.mp (Channel.receive_isSome_iff.mpr hne)
  have hhead := Channel.pending_of_receive hreceive
  rw [hpending] at hhead
  obtain ⟨rfl, rfl⟩ := Prod.mk.inj (List.cons.inj hhead).1
  refine ⟨_, _, _, .receive received htask hrunning hidle,
    .send htask₁ houtgoing (by simp [ReceiveSystem.withTask, hloop]) hsend,
    .handle hloop hreceive hpass, ?_⟩
  rintro loop' rfl
  rfl

/-- The loop handles what the tasks accept, over any interleaving of tasks, timers and
clients: of each socket the packets before its first failure, in order and once each, in a
run of the loop like any other. While it runs none is lost, and the oldest can be handled.
For want of tasks it ends only when every socket has failed and all was handled. -/
theorem run_received {s₀ : ReceiveSystem Driver} (hinitial : ReceiveInitial s₀)
    (hloop : s₀.loop = some loop₀) (hrun : Run ReceiveStep s₀ labels s) :
    ((∀ loop, s.loop = some loop → Run LoopStep loop₀ (passes labels) loop) ∧
      s.queue.taken.map Prod.snd = (passes labels).filterMap handledPacket) ∧
    (∀ i sender, s.tasks[i]? = some sender → ∃ rest,
      acceptedPackets sender.task.rxSocket (receivedBy i labels) =
        packetsOf i s.queue.taken ++ packetsOf i s.queue.pending ++ rest ∧
      (s.loop ≠ none → rest = sender.outgoing.toList)) ∧
    (s.loop ≠ none → s.queue.pending ≠ [] → ∀ answers, ∃ i packet res s',
      s.queue.pending.head? = some (i, packet) ∧
        ReceiveStep s (.pass (answers, .received (some packet)) res) s') ∧
    ∀ answers res s', ReceiveStep s (.pass (answers, .received none) res) s' →
      s'.loop = none ∧ ∀ i sender, s.tasks[i]? = some sender →
        packetsOf i s.queue.taken = acceptedPackets sender.task.rxSocket (receivedBy i labels) ∧
        ∃ next ∈ receivedBy i labels, receipt sender.task.rxSocket next = none := by
  have hdelivered := run_delivered hinitial hloop hrun
  have hparts : ∀ i sender, s.tasks[i]? = some sender → ∃ rest,
      acceptedPackets sender.task.rxSocket (receivedBy i labels) =
        packetsOf i s.queue.taken ++ packetsOf i s.queue.pending ++ rest ∧
      (s.loop ≠ none → rest = sender.outgoing.toList) := by
    intro i sender htask
    have hdelivering := hdelivered.tasks i sender htask
    obtain ⟨rest, hrest⟩ := hdelivering.sent
    rw [← packetsOf_append, s.queue.taken_append_pending, ← hdelivering.accepts.handed]
    refine ⟨rest, hrest.symm, fun hgoes => ?_⟩
    exact List.append_cancel_left (hrest.trans (hdelivering.complete hgoes))
  refine ⟨⟨hdelivered.loop, hdelivered.taken⟩, hparts, fun hgoes hpending answers => ?_,
    fun answers res s' hstep => ?_⟩
  · obtain ⟨loop, hsome⟩ := Option.ne_none_iff_exists'.mp hgoes
    exact ReceiveSystem.can_handle hsome hpending answers
  · cases hstep with
    | pass hsome hpass hother => exact absurd rfl (hother none)
    | closed hsome hended hempty hpass =>
        obtain ⟨deamon, -, rfl⟩ := pass_closed hpass
        refine ⟨rfl, fun i sender htask => ?_⟩
        have hdelivering := hdelivered.tasks i sender htask
        have hfailed := hended sender (List.mem_of_getElem? htask)
        obtain ⟨rest, hrest, hnone⟩ := hparts i sender htask
        rw [hnone (by simp [hsome]), hdelivering.ended hfailed, hempty] at hrest
        refine ⟨by simpa [packetsOf] using hrest.symm, ?_⟩
        by_contra hall
        refine absurd (hdelivering.accepts.running.mpr fun next hnext => ?_) (by simp [hfailed])
        exact Option.isSome_iff_ne_none.mpr fun hnext' => hall ⟨next, hnext, hnext'⟩

end Delivery

theorem startLoop_receiveInitial {driver : Driver} {host : Host} {ripCfg : RipConfiguration}
    {loop : EventLoop Driver} (hsent : host.sent = [])
    (h : startLoop driver host ripCfg = some loop) :
    ReceiveInitial {
      tasks := ((finalState ((setup (.ok ripCfg)).run
        (RipDeamon.new driver host))).interfaces.filterMap RipIfc.rx).map RxSender.spawn
      queue := .empty
      loop := some loop } := by
  rw [startLoop] at h
  split at h
  · rename_i deamon hsetup
    split at h
    · rename_i loop' deamon' henter
      obtain rfl : loop' = loop := by simpa using h
      refine ⟨driver, host, .ok ripCfg, .ok (), deamon, deamon', loop', hsent, hsetup, henter, ?_⟩
      simp [hsetup]
    · simp at h
  · simp at h

theorem receipt_emptyResponse : (receipt eth0Socket (.ok emptyResponse)).isSome = true := by
  have hshort : emptyResponse.data.length ≤ rxBufferSize := by decide
  simp only [receipt, List.take_of_length_le hshort]
  exact decoding_emptyResponse

theorem response_taken :
    ∃ (s₀ s : ReceiveSystem Kernel) (loop₀ : EventLoop Kernel) (labels : List (ReceiveLabel Kernel))
      (packet : RipPacket), ReceiveInitial s₀ ∧ s₀.loop = some loop₀ ∧
      Run ReceiveStep s₀ labels s ∧ receipt eth0Socket (.ok emptyResponse) = some packet ∧
      passes labels = [(steady, .received (some packet))] ∧
      s.queue.taken.map Prod.snd = (passes labels).filterMap handledPacket := by
  have hinterfaces : (finalState ((setup (.ok twoInterfaces)).run
      (RipDeamon.new Kernel.empty { answers := steady, sent := [] }))).interfaces.filterMap
        RipIfc.rx = [eth0Socket, { ifName := "eth1", ifIndex := 2 }] := by
    decide +kernel
  have hstarts : (startLoop Kernel.empty { answers := steady, sent := [] }
      twoInterfaces).isSome = true := by
    decide +kernel
  obtain ⟨loop₀, hstart⟩ := Option.isSome_iff_exists.mp hstarts
  obtain ⟨packet, hpacket⟩ := Option.isSome_iff_exists.mp receipt_emptyResponse
  have hinitial := startLoop_receiveInitial rfl hstart
  rw [hinterfaces] at hinitial
  obtain ⟨res, hpass⟩ := @exists_pass Kernel _ loop₀ (steady, .received (some packet)) rfl
  let started : ReceiveSystem Kernel := ⟨[RxSender.spawn eth0Socket,
    RxSender.spawn { ifName := "eth1", ifIndex := 2 }], .empty, some loop₀⟩
  have htask : started.tasks[0]? = some (RxSender.spawn eth0Socket) := rfl
  obtain ⟨s₁, s₂, s₃, hreceived, hsent, hhandled, -⟩ := ReceiveSystem.can_deliver rfl rfl htask
    rfl rfl List.length_replicate hpacket hpass
  have hrun := ((Run.single hreceived).snoc hsent).snoc hhandled
  exact ⟨_, _, loop₀, _, packet, hinitial, rfl, hrun, hpacket, rfl,
    (run_received hinitial rfl hrun).1.2⟩

end RipV2.ReceivePath
