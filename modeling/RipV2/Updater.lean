import RipV2.Chunks
import RipV2.Database

namespace RipV2.Updater

open RipV2.ByteOrder
open RipV2.Chunks
open RipV2.Database
open RipV2.HostEnvironment
open RipV2.Packets
open RipV2.Results

/-- A socket is bound to an interface, whose index it knows. -/
structure RipSocket where
  ifName : String
  ifIndex : UInt32
deriving DecidableEq, Repr

/-- Opening a receiving and a sending socket goes through the same calls. -/
def RipSocket.create (ifName : String) : HostM String RipSocket := do
  match (← get).answers.ifcNametoindex ifName with
  | .error e => throw e
  | .ok ifIndex =>
      openSocket
      return { ifName, ifIndex }

def RipSocket.newRxSocket (ifName : String) : HostM String RipSocket := RipSocket.create ifName

def RipSocket.newTxSocket (ifName : String) : HostM String RipSocket := RipSocket.create ifName

/-- To the group of all RIP routers, on the socket's interface. -/
def RipSocket.sendMulticast (socket : RipSocket) (buffer : List UInt8) : HostM String Unit :=
  sendTo "failed to send full RIP packet" {
    ifName := socket.ifName
    ifIndex := socket.ifIndex
    target := { ip := ripMulticastAddr, port := ripUdpPort }
    payload := buffer }

/-- An interface of the daemon. The receiving socket is given away once the daemon runs. -/
structure RipIfc where
  ifName : String
  rx : Option RipSocket
  tx : RipSocket
deriving DecidableEq, Repr

/-- The sending socket is opened first. -/
def RipIfc.createIfc (ifName : String) : HostM String RipIfc := do
  let socketTx ← RipSocket.newTxSocket ifName
  let socketRx ← RipSocket.newRxSocket ifName
  return { ifName, rx := some socketRx, tx := socketTx }

/-- A failure names the interface. -/
def RipIfc.create (ifName : String) : HostM RipError RipIfc :=
  EStateM.adaptExcept (fun message => .failedToConfigureInterface message ifName)
    (RipIfc.createIfc ifName)

def ripResponseMaxEntries : Nat := 25

/-- Overwrite the part of `buffer` that starts at `offset`. -/
def copyFromSlice (buffer : List UInt8) (offset : Nat) (source : List UInt8) : List UInt8 :=
  buffer.take offset ++ (source ++ buffer.drop (offset + source.length))

/-- Each entry is copied to where its index says. -/
def copyEntries (endian : Endian) (buffer : List UInt8) (entries : List (RipEntry × Nat)) :
    List UInt8 :=
  entries.foldl (fun buffer indexed =>
    copyFromSlice buffer (ripHeaderSize + indexed.2 * ripEntrySize)
      ((indexed.1.toBe endian).asBytes endian)) buffer

def responseHeader : RipHeader where
  command := ripCmdResponse
  version := rip2Version
  padding := 0

/-- Header and entries in one buffer of their joint size. -/
def buildResponseBuffer (endian : Endian) (entries : List RipEntry) : List UInt8 :=
  let buffer := List.replicate (ripHeaderSize + entries.length * ripEntrySize) 0
  let buffer := copyFromSlice buffer 0 (responseHeader.asBytes endian)
  copyEntries endian buffer entries.zipIdx

/-- As many packets as it takes for at most 25 entries each. No entries make no packet. -/
def buildResponseBuffers (endian : Endian) (database : RipDatabase) (targetIfIndex : UInt32)
    (changedOnly : Bool) : List (List UInt8) :=
  let entries := database.getRoutesForAdvertisement targetIfIndex changedOnly
  (chunks ripResponseMaxEntries entries).map (buildResponseBuffer endian)

/-- A header and the one entry that asks for the whole table. -/
def requestBuffer (endian : Endian) : List UInt8 :=
  let header : RipHeader := { command := ripCmdRequest, version := rip2Version, padding := 0 }
  let buffer := List.replicate (ripHeaderSize + ripEntrySize) 0
  let buffer := copyFromSlice buffer 0 (header.asBytes endian)
  copyFromSlice buffer ripHeaderSize ((ripEntryRequest.toBe endian).asBytes endian)

def ripSendRequestMulticast (socket : RipSocket) : HostM String Unit := do
  socket.sendMulticast (requestBuffer (← get).answers.endian)

/-- The whole table but for split horizon, to the one who asked. -/
def ripSendResponseUnicast (database : RipDatabase) (target : SocketAddrV4)
    (targetIfInfo : RipIfInfo) : HostM String Unit := do
  let changedOnly := false
  let buffers :=
    buildResponseBuffers (← get).answers.endian database targetIfInfo.ifIndex changedOnly
  if buffers.isEmpty then
    return ()
  openSocket
  buffers.forM fun buffer =>
    sendTo "failed to send full RIP response" {
      ifName := targetIfInfo.ifName
      ifIndex := targetIfInfo.ifIndex
      target
      payload := buffer }

/-- The body of the loop over the interfaces. -/
def sendAdvertisementOn (database : RipDatabase) (changedOnly : Bool) (ifc : RipIfc) :
    HostM String Unit := do
  let buffers :=
    buildResponseBuffers (← get).answers.endian database ifc.tx.ifIndex changedOnly
  if buffers.isEmpty then
    return ()
  buffers.forM fun buffer => ifc.tx.sendMulticast buffer

/-- One interface after the other, up to the first failure to send. -/
def ripSendAdvertisementMulticast (database : RipDatabase) (interfaces : List RipIfc)
    (changedOnly : Bool) : HostM String Unit :=
  interfaces.forM (sendAdvertisementOn database changedOnly)

theorem copyEntries_zipIdx (endian : Endian) (entries : List RipEntry) (k : Nat)
    (front : List UInt8) (hfront : front.length = ripHeaderSize + k * ripEntrySize) :
    copyEntries endian (front ++ List.replicate (entries.length * ripEntrySize) 0)
        (entries.zipIdx k) =
      front ++ entries.flatMap fun entry => (entry.toBe endian).asBytes endian := by
  induction entries generalizing k front with
  | nil => simp [copyEntries]
  | cons entry entries ih =>
      let bytes := (entry.toBe endian).asBytes endian
      have hbytes : bytes.length = ripEntrySize := RipEntry.asBytes_length endian _
      have hcopy : copyFromSlice
          (front ++ List.replicate ((entry :: entries).length * ripEntrySize) 0)
          (ripHeaderSize + k * ripEntrySize) bytes =
          (front ++ bytes) ++ List.replicate (entries.length * ripEntrySize) 0 := by
        rw [copyFromSlice, ← hfront, List.take_left' rfl, hbytes, List.drop_append,
          List.drop_eq_nil_of_le (by omega), List.drop_replicate, List.nil_append,
          List.append_assoc]
        congr 4
        rw [List.length_cons, Nat.succ_mul]
        omega
      have hnext : (front ++ bytes).length = ripHeaderSize + (k + 1) * ripEntrySize := by
        rw [List.length_append, hfront, hbytes, Nat.succ_mul, Nat.add_assoc]
      rw [List.zipIdx_cons]
      change copyEntries endian (copyFromSlice _ _ bytes) _ = _
      rw [hcopy, ih (k + 1) _ hnext, List.flatMap_cons, List.append_assoc]

theorem buildResponseBuffer_eq (endian : Endian) (entries : List RipEntry) :
    buildResponseBuffer endian entries = responseHeader.asBytes endian ++
      entries.flatMap fun entry => (entry.toBe endian).asBytes endian := by
  have hheader := RipHeader.asBytes_length endian responseHeader
  have hcopy : copyFromSlice
      (List.replicate (ripHeaderSize + entries.length * ripEntrySize) 0) 0
      (responseHeader.asBytes endian) =
      responseHeader.asBytes endian ++ List.replicate (entries.length * ripEntrySize) 0 := by
    rw [copyFromSlice, hheader, List.drop_replicate, Nat.zero_add, Nat.add_sub_cancel_left]
    rfl
  rw [buildResponseBuffer, hcopy]
  exact copyEntries_zipIdx endian entries 0 _ (by simp [hheader])

theorem fromSlice_buildResponseBuffer (endian : Endian) (entries : List RipEntry) :
    RipPacketData.fromSlice (buildResponseBuffer endian entries) =
      .ok (.ok { header := responseHeader, entries }) := by
  rw [buildResponseBuffer_eq]
  exact RipPacketData.fromSlice_encoding endian ripCmdResponse rip2Version entries

theorem fromSlice_requestBuffer (endian : Endian) :
    RipPacketData.fromSlice (requestBuffer endian) =
      .ok (.ok {
        header := { command := ripCmdRequest, version := rip2Version, padding := 0 }
        entries := [ripEntryRequest] }) := by
  have hencoding :=
    RipPacketData.fromSlice_encoding endian ripCmdRequest rip2Version [ripEntryRequest]
  have hbuffer : requestBuffer endian =
      RipHeader.asBytes endian
        { command := ripCmdRequest, version := rip2Version, padding := 0 } ++
      [ripEntryRequest].flatMap fun entry => (entry.toBe endian).asBytes endian := by
    cases endian <;> decide
  rw [hbuffer, hencoding]

def RipSocket.multicast (socket : RipSocket) (payload : List UInt8) : Transmission where
  ifName := socket.ifName
  ifIndex := socket.ifIndex
  target := { ip := ripMulticastAddr, port := ripUdpPort }
  payload := payload

def unicast (target : SocketAddrV4) (ifInfo : RipIfInfo) (payload : List UInt8) :
    Transmission where
  ifName := ifInfo.ifName
  ifIndex := ifInfo.ifIndex
  target := target
  payload := payload

/-- All datagrams of an advertisement on one interface. -/
def advertisementOn (endian : Endian) (database : RipDatabase) (changedOnly : Bool)
    (ifc : RipIfc) : List Transmission :=
  (buildResponseBuffers endian database ifc.tx.ifIndex changedOnly).map ifc.tx.multicast

/-- The datagrams of one advertisement on all interfaces. -/
def advertisement (endian : Endian) (database : RipDatabase) (interfaces : List RipIfc)
    (changedOnly : Bool) : List Transmission :=
  interfaces.flatMap (advertisementOn endian database changedOnly)

/-- All datagrams that answer a request. -/
def unicastResponse (endian : Endian) (database : RipDatabase) (target : SocketAddrV4)
    (ifInfo : RipIfInfo) : List Transmission :=
  (buildResponseBuffers endian database ifInfo.ifIndex false).map (unicast target ifInfo)

theorem sends_buffers {endian : Endian} {message : String} (buffers : List (List UInt8))
    (wrap : List UInt8 → Transmission) :
    Sends endian (buffers.map wrap) (buffers.forM fun buffer => sendTo message (wrap buffer)) := by
  have hforM := sends_forM (f := fun buffer => sendTo message (wrap buffer))
    fun buffer (_ : buffer ∈ buffers) => sends_sendTo endian message (wrap buffer)
  rwa [← List.map_eq_flatMap] at hforM

theorem sends_advertisementOn (endian : Endian) (database : RipDatabase) (changedOnly : Bool)
    (ifc : RipIfc) :
    Sends endian (advertisementOn endian database changedOnly ifc)
      (sendAdvertisementOn database changedOnly ifc) := by
  apply sends_endian (f := fun endian =>
    if (buildResponseBuffers endian database ifc.tx.ifIndex changedOnly).isEmpty then pure ()
    else (buildResponseBuffers endian database ifc.tx.ifIndex changedOnly).forM
      fun buffer => ifc.tx.sendMulticast buffer)
  rw [advertisementOn]
  split_ifs with hempty
  · rw [List.isEmpty_iff.mp hempty]
    exact sends_pure endian
  · exact sends_buffers _ ifc.tx.multicast

theorem sends_advertisement (endian : Endian) (database : RipDatabase)
    (interfaces : List RipIfc) (changedOnly : Bool) :
    Sends endian (advertisement endian database interfaces changedOnly)
      (ripSendAdvertisementMulticast database interfaces changedOnly) :=
  sends_forM fun ifc _ => sends_advertisementOn endian database changedOnly ifc

theorem sends_unicastResponse (endian : Endian) (database : RipDatabase) (target : SocketAddrV4)
    (ifInfo : RipIfInfo) :
    Sends endian (unicastResponse endian database target ifInfo)
      (ripSendResponseUnicast database target ifInfo) := by
  apply sends_endian (f := fun endian =>
    if (buildResponseBuffers endian database ifInfo.ifIndex false).isEmpty then pure ()
    else do
      openSocket
      (buildResponseBuffers endian database ifInfo.ifIndex false).forM fun buffer =>
        sendTo "failed to send full RIP response" (unicast target ifInfo buffer))
  rw [unicastResponse]
  split_ifs with hempty
  · rw [List.isEmpty_iff.mp hempty]
    exact sends_pure endian
  · exact sends_bind (sends_openSocket endian) (sends_buffers _ (unicast target ifInfo))

theorem sends_requestMulticast (endian : Endian) (socket : RipSocket) :
    Sends endian [socket.multicast (requestBuffer endian)] (ripSendRequestMulticast socket) :=
  sends_endian (f := fun endian => socket.sendMulticast (requestBuffer endian))
    (sends_sendTo endian _ _)

theorem exists_transmission_of_mem (endian : Endian) {database : RipDatabase}
    {interfaces : List RipIfc} {changedOnly : Bool} {ifc : RipIfc} {entry : RipEntry}
    (hifc : ifc ∈ interfaces)
    (hentry : entry ∈ database.getRoutesForAdvertisement ifc.tx.ifIndex changedOnly) :
    ∃ entries, entry ∈ entries ∧
      ifc.tx.multicast (buildResponseBuffer endian entries) ∈
        advertisement endian database interfaces changedOnly := by
  obtain ⟨entries, hchunk, hmem⟩ := exists_chunk_of_mem hentry
  refine ⟨entries, hmem, List.mem_flatMap.mpr ⟨ifc, hifc, List.mem_map.mpr ⟨_, ?_, rfl⟩⟩⟩
  exact List.mem_map.mpr ⟨entries, hchunk, rfl⟩

/-- On each of the interfaces but those with index `ifIndex` a response that
contains the entry has gone out. -/
def Announced (interfaces : List RipIfc) (ifIndex : UInt32) (entry : RipEntry)
    (sent : List Transmission) : Prop :=
  ∀ ifc ∈ interfaces, ifc.tx.ifIndex ≠ ifIndex → ∃ transmission ∈ sent, ∃ data,
    transmission.ifName = ifc.tx.ifName ∧ transmission.ifIndex = ifc.tx.ifIndex ∧
    transmission.target = { ip := ripMulticastAddr, port := ripUdpPort } ∧
    RipPacketData.fromSlice transmission.payload = .ok (.ok data) ∧
    data.header = responseHeader ∧ entry ∈ data.entries

theorem announced_advertisement (endian : Endian) {database : RipDatabase}
    (interfaces : List RipIfc) {changedOnly : Bool} {route : RipDbEntry}
    (hroute : route ∈ database.allRoutes)
    (hchanged : changedOnly = true → route.changed = true) :
    Announced interfaces route.ifIndex route.advertised
      (advertisement endian database interfaces changedOnly) := by
  intro ifc hifc hindex
  have hentry : route.advertised ∈
      database.getRoutesForAdvertisement ifc.tx.ifIndex changedOnly :=
    RipDatabase.mem_getRoutesForAdvertisement_iff.mpr
      ⟨route, hroute, hchanged, Ne.symm hindex, rfl⟩
  obtain ⟨entries, hmem, hsent⟩ := exists_transmission_of_mem endian hifc hentry
  exact ⟨_, hsent, _, rfl, rfl, rfl, fromSlice_buildResponseBuffer endian entries, rfl, hmem⟩

end RipV2.Updater
