import RipV2.Updater

namespace RipV2.ReceiveTask

open RipV2.Packets
open RipV2.Results
open RipV2.Updater

/-- The source of a datagram. -/
inductive SocketAddr where
  | v4 (addr : SocketAddrV4)
  | v6 (ip : BitVec 128) (port : UInt16)
deriving DecidableEq, Repr

/-- A datagram from an IPv6 address is refused before it is looked at. -/
def parseRxData (data : List UInt8) (source : SocketAddr) (ifInfo : RipIfInfo) :
    Checked (RipResult RipPacket) := do
  match source with
  | .v6 _ _ => return .error .invalidSourceAddress
  | .v4 source =>
      match ← RipPacketData.fromSlice data with
      | .error e => return .error e
      | .ok packetData => return .ok { ifInfo, source, data := packetData }

/-- What a socket receives, before it is cut to the buffer. -/
structure Datagram where
  data : List UInt8
  source : SocketAddr
deriving DecidableEq, Repr

/-- What a call of `recv_from` leaves in the buffer, and the length it returns. -/
def recvFrom (buffer : List UInt8) (datagram : Datagram) : List UInt8 × Nat :=
  let received := datagram.data.take buffer.length
  (copyFromSlice buffer 0 received, received.length)

def rxBufferSize : Nat := 2048

/-- The task of one receiving socket: its buffer, what it has handed to the
channel so far, and whether it is still in its loop. -/
structure RxTask where
  rxSocket : RipSocket
  buffer : List UInt8
  handed : List RipPacket
  running : Bool

/-- `spawn_rx_task`, before the first turn of its loop. -/
def RxTask.spawn (rxSocket : RipSocket) : RxTask where
  rxSocket := rxSocket
  buffer := List.replicate rxBufferSize 0
  handed := []
  running := true

/-- Packets are marked with the interface of the socket that received them. -/
def ifInfoOf (rxSocket : RipSocket) : RipIfInfo where
  ifName := rxSocket.ifName
  ifIndex := rxSocket.ifIndex

/-- One turn of the loop. A task that has left its loop receives nothing more. -/
def RxTask.turn (task : RxTask) (received : Except String Datagram) : RxTask :=
  if !task.running then task
  else
    match received with
    | .error _ => { task with running := false }
    | .ok datagram =>
        let (buffer, len) := recvFrom task.buffer datagram
        match parseRxData (buffer.take len) datagram.source (ifInfoOf task.rxSocket) with
        | .ok (.ok packet) => { task with buffer, handed := task.handed ++ [packet] }
        | .ok (.error _) => { task with buffer, running := false }
        -- a panic unwinds the task
        | .error _ => { task with buffer, running := false }

/-- The task after these results of receiving. -/
def RxTask.run (rxSocket : RipSocket) (received : List (Except String Datagram)) : RxTask :=
  received.foldl RxTask.turn (RxTask.spawn rxSocket)

/-- The packet that `parseRxData` makes of a datagram, if it accepts it. -/
def decoding (rxSocket : RipSocket) (datagram : Datagram) : Option RipPacket :=
  match parseRxData datagram.data datagram.source (ifInfoOf rxSocket) with
  | .ok (.ok packet) => some packet
  | _ => none

theorem recvFrom_take {buffer : List UInt8} {datagram : Datagram}
    (h : datagram.data.length ≤ buffer.length) :
    ((recvFrom buffer datagram).1.take (recvFrom buffer datagram).2) = datagram.data := by
  simp only [recvFrom, copyFromSlice, List.take_zero, List.nil_append, List.take_of_length_le h]
  exact List.take_left' rfl

theorem recvFrom_length (buffer : List UInt8) (datagram : Datagram) :
    (recvFrom buffer datagram).1.length = buffer.length := by
  simp only [recvFrom, copyFromSlice, List.take_zero, List.nil_append, List.length_append,
    List.length_take, List.length_drop]
  omega

/-- The task waits for a datagram, with a buffer that can take `size` bytes. -/
structure Receiving (rxSocket : RipSocket) (size : Nat) (task : RxTask) : Prop where
  rxSocket : task.rxSocket = rxSocket
  buffer : task.buffer.length = size
  running : task.running = true

section Turns

variable {rxSocket : RipSocket} {size : Nat} {task : RxTask} {datagram : Datagram}

theorem turn_of_decoding (h : Receiving rxSocket size task)
    (hlength : datagram.data.length ≤ size) {packet : RipPacket}
    (hdecoding : decoding rxSocket datagram = some packet) :
    Receiving rxSocket size (task.turn (.ok datagram)) ∧
      (task.turn (.ok datagram)).handed = task.handed ++ [packet] := by
  have hparse : parseRxData datagram.data datagram.source (ifInfoOf rxSocket) =
      .ok (.ok packet) := by
    rw [decoding] at hdecoding
    split at hdecoding
    · rename_i other hother
      rw [hother, Option.some.inj hdecoding]
    · simp at hdecoding
  have htake := recvFrom_take (h.buffer.symm ▸ hlength)
  simp only [RxTask.turn, h.running, h.rxSocket, htake, hparse, Bool.not_true, Bool.false_eq_true,
    if_false]
  exact ⟨⟨rfl, (recvFrom_length _ _).trans h.buffer, rfl⟩, trivial⟩

theorem turn_of_rejected (h : Receiving rxSocket size task)
    (hlength : datagram.data.length ≤ size) (hrejected : decoding rxSocket datagram = none) :
    (task.turn (.ok datagram)).running = false ∧
      (task.turn (.ok datagram)).handed = task.handed := by
  have htake := recvFrom_take (h.buffer.symm ▸ hlength)
  simp only [RxTask.turn, h.running, h.rxSocket, htake, Bool.not_true, Bool.false_eq_true,
    if_false]
  rw [decoding] at hrejected
  cases hparse : parseRxData datagram.data datagram.source (ifInfoOf rxSocket) with
  | error panic => exact ⟨rfl, rfl⟩
  | ok result =>
      cases result with
      | error e => exact ⟨rfl, rfl⟩
      | ok packet => simp [hparse] at hrejected

theorem turns_of_ended (h : task.running = false) (received : List (Except String Datagram)) :
    received.foldl RxTask.turn task = task := by
  induction received with
  | nil => rfl
  | cons next received ih =>
      have hturn : task.turn next = task := by
        simp [RxTask.turn, h]
      rw [List.foldl_cons, hturn, ih]

theorem turns_handed {datagrams : List Datagram} (h : Receiving rxSocket size task)
    (hlength : ∀ datagram ∈ datagrams, datagram.data.length ≤ size) :
    ((datagrams.map .ok).foldl RxTask.turn task).handed = task.handed ++
      (datagrams.takeWhile fun datagram => (decoding rxSocket datagram).isSome).filterMap
        (decoding rxSocket) := by
  -- the task hands over what comes before the first datagram that it rejects
  induction datagrams generalizing task with
  | nil => simp
  | cons datagram datagrams ih =>
      have hfirst := hlength datagram (by simp)
      rw [List.map_cons, List.foldl_cons]
      cases hdecoding : decoding rxSocket datagram with
      | none =>
          obtain ⟨hended, hhanded⟩ := turn_of_rejected h hfirst hdecoding
          rw [turns_of_ended hended, hhanded, List.takeWhile_cons_of_neg (by simp [hdecoding])]
          simp
      | some packet =>
          obtain ⟨hreceiving, hhanded⟩ := turn_of_decoding h hfirst hdecoding
          rw [ih hreceiving fun other hmem => hlength other (by simp [hmem]), hhanded,
            List.takeWhile_cons_of_pos (by simp [hdecoding]), List.filterMap_cons_some hdecoding,
            List.append_assoc, List.singleton_append]

end Turns

theorem filterMap_takeWhile_eq_iff {α β : Type} (f : α → Option β) (xs : List α) :
    (xs.takeWhile fun x => (f x).isSome).filterMap f = xs.filterMap f ↔
      xs.Pairwise fun x y => (f y).isSome = true → (f x).isSome = true := by
  induction xs with
  | nil => simp
  | cons x xs ih =>
      rw [List.pairwise_cons]
      cases hx : f x with
      | none =>
          rw [List.takeWhile_cons_of_neg (by simp [hx]), List.filterMap_nil,
            List.filterMap_cons_none hx, eq_comm, List.filterMap_eq_nil_iff]
          constructor
          · intro hnone
            refine ⟨fun y hy hsome => ?_, List.pairwise_of_forall_mem_list ?_⟩
            · simp [hnone y hy] at hsome
            · intro y _ z hz hsome
              simp [hnone z hz] at hsome
          · rintro ⟨hlater, -⟩ y hy
            by_contra hsome
            exact absurd (hlater y hy (Option.isSome_iff_ne_none.mpr hsome)) (by simp)
      | some b =>
          rw [List.takeWhile_cons_of_pos (by simp [hx]), List.filterMap_cons_some hx,
            List.filterMap_cons_some hx, List.cons_inj_right, ih]
          simp

/-- The task hands over exactly the decodings of the datagrams it accepts, in
order, if and only if it accepts none after one that it rejects. -/
theorem run_handed_iff (rxSocket : RipSocket) (datagrams : List Datagram)
    (hlength : ∀ datagram ∈ datagrams, datagram.data.length ≤ rxBufferSize) :
    (RxTask.run rxSocket (datagrams.map .ok)).handed =
        datagrams.filterMap (decoding rxSocket) ↔
      datagrams.Pairwise fun earlier later =>
        (decoding rxSocket later).isSome = true → (decoding rxSocket earlier).isSome = true := by
  have hspawned : Receiving rxSocket rxBufferSize (RxTask.spawn rxSocket) :=
    ⟨rfl, List.length_replicate, rfl⟩
  rw [RxTask.run, turns_handed hspawned hlength, ← filterMap_takeWhile_eq_iff]
  exact Iff.rfl

def eth0Socket : RipSocket := { ifName := "eth0", ifIndex := 1 }

/-- 10.3.0.2 -/
def neighbourAddr : SocketAddr := .v4 { ip := 0x0a030002, port := ripUdpPort }

/-- A header and one byte more. -/
def shortDatagram : Datagram := { data := [2, 2, 0, 0, 0], source := neighbourAddr }

/-- A response without entries. -/
def emptyResponse : Datagram :=
  { data := buildResponseBuffer .little [], source := neighbourAddr }

theorem decoding_shortDatagram : decoding eth0Socket shortDatagram = none := rfl

theorem decoding_emptyResponse : (decoding eth0Socket emptyResponse).isSome = true := by
  have hdata := fromSlice_buildResponseBuffer .little []
  simp [decoding, parseRxData, emptyResponse, neighbourAddr, hdata, bind, Except.bind, pure,
    Except.pure]

theorem responses_handed :
    (RxTask.run eth0Socket ([emptyResponse, shortDatagram].map .ok)).handed =
      [emptyResponse, shortDatagram].filterMap (decoding eth0Socket) := by
  refine (run_handed_iff eth0Socket [emptyResponse, shortDatagram] ?_).mpr ?_
  · decide
  · simp [decoding_shortDatagram]

/-- A datagram that is rejected deafens the interface: the response behind it
is accepted and not handed over. -/
theorem response_lost_after_rejected :
    (RxTask.run eth0Socket ([shortDatagram, emptyResponse].map .ok)).handed ≠
      [shortDatagram, emptyResponse].filterMap (decoding eth0Socket) := by
  have hspawned : Receiving eth0Socket rxBufferSize (RxTask.spawn eth0Socket) :=
    ⟨rfl, List.length_replicate, rfl⟩
  obtain ⟨packet, hpacket⟩ := Option.isSome_iff_exists.mp decoding_emptyResponse
  rw [RxTask.run, turns_handed hspawned (by decide),
    List.takeWhile_cons_of_neg (by simp [decoding_shortDatagram])]
  simp [decoding_shortDatagram, hpacket, RxTask.spawn]

end RipV2.ReceiveTask
