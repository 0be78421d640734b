import RipV2.ByteOrder
import RipV2.Results

namespace RipV2.Packets

open RipV2.ByteOrder
open RipV2.Results

/-- The first four bytes of a packet. -/
structure RipHeader where
  command : UInt8
  version : UInt8
  padding : UInt16
deriving DecidableEq, Repr

def ripHeaderSize : Nat := 4

/-- One route in a packet. The fields are numbers; byte order is a matter of encoding. -/
structure RipEntry where
  routingFamilyId : UInt16
  routeTag : UInt16
  ipAddress : UInt32
  subnetMask : UInt32
  nextHop : UInt32
  metric : UInt32
deriving DecidableEq, Repr

def ripEntrySize : Nat := 20

/-- The one entry of a request for the whole table. -/
def ripEntryRequest : RipEntry where
  routingFamilyId := 0
  routeTag := 0
  ipAddress := 0
  subnetMask := 0
  nextHop := 0
  metric := 16

structure RipIfInfo where
  ifName : String
  ifIndex : UInt32
deriving DecidableEq, Repr

structure SocketAddrV4 where
  ip : UInt32
  port : UInt16
deriving DecidableEq, Repr

/-- A packet as it is decoded from a datagram. -/
structure RipPacketData where
  header : RipHeader
  entries : List RipEntry
deriving DecidableEq, Repr

/-- Only requests for the whole table count as such. -/
def RipPacketData.isRequest (data : RipPacketData) : Bool :=
  data.header.command == ripCmdRequest && data.entries == [ripEntryRequest]

def RipPacketData.isResponse (data : RipPacketData) : Bool :=
  data.header.command == ripCmdResponse

/-- A decoded packet with where it came from. -/
structure RipPacket where
  data : RipPacketData
  ifInfo : RipIfInfo
  source : SocketAddrV4
deriving DecidableEq, Repr

def RipPacket.isRequest (packet : RipPacket) : Bool :=
  packet.data.isRequest

def RipPacket.isResponse (packet : RipPacket) : Bool :=
  packet.data.isResponse

theorem RipPacket.isRequest_eq_false_of_isResponse {packet : RipPacket}
    (h : packet.isResponse = true) : packet.isRequest = false := by
  have hcommand : packet.data.header.command = ripCmdResponse := by
    simpa [RipPacket.isResponse, RipPacketData.isResponse] using h
  simp [RipPacket.isRequest, RipPacketData.isRequest, hcommand, ripCmdRequest, ripCmdResponse]

/-- What stops a thread that checks its arithmetic and its slices. -/
inductive Panic where
  | arithmeticOverflow
  | sliceOutOfRange
deriving DecidableEq, Repr

/-- A computation that may panic, as arithmetic and slicing do. -/
abbrev Checked (α : Type) := Except Panic α

/-- Subtraction of `usize`, which panics below zero. -/
def checkedSub (a b : Nat) : Checked Nat :=
  if b ≤ a then .ok (a - b) else .error .arithmeticOverflow

def sliceTo (data : List UInt8) (n : Nat) : Checked (List UInt8) :=
  if n ≤ data.length then .ok (data.take n) else .error .sliceOutOfRange

def sliceFrom (data : List UInt8) (n : Nat) : Checked (List UInt8) :=
  if n ≤ data.length then .ok (data.drop n) else .error .sliceOutOfRange

/-- The bytes of `data` from `offset` on, read as a big-endian integer. -/
def beAt (data : List UInt8) (offset n : Nat) : Nat :=
  fromBeBytes ((data.drop offset).take n)

/-- A slice of exactly the header's size. -/
def RipHeader.fromSlice (data : List UInt8) : RipResult RipHeader :=
  if data.length ≠ ripHeaderSize then .error .malformedPacket
  else .ok {
    command := UInt8.ofNat (beAt data 0 1)
    version := UInt8.ofNat (beAt data 1 1)
    padding := UInt16.ofNat (beAt data 2 2) }

/-- A slice of exactly an entry's size, its fields in network byte order. -/
def RipEntry.fromSlice (data : List UInt8) : RipResult RipEntry :=
  if data.length ≠ ripEntrySize then .error .malformedPacket
  else .ok {
    routingFamilyId := UInt16.ofNat (beAt data 0 2)
    routeTag := UInt16.ofNat (beAt data 2 2)
    ipAddress := UInt32.ofNat (beAt data 4 4)
    subnetMask := UInt32.ofNat (beAt data 8 4)
    nextHop := UInt32.ofNat (beAt data 12 4)
    metric := UInt32.ofNat (beAt data 16 4) }

/-- The loop over the bytes behind the header. -/
def decodeEntries (data : List UInt8) : Checked (RipResult (List RipEntry)) :=
  if 0 < data.length then
    if ripEntrySize ≤ data.length then
      match RipEntry.fromSlice (data.take ripEntrySize) with
      | .error e => .ok (.error e)
      | .ok entry =>
          match decodeEntries (data.drop ripEntrySize) with
          | .ok (.ok entries) => .ok (.ok (entry :: entries))
          | other => other
    else .error .sliceOutOfRange
  else .ok (.ok [])
termination_by data.length
decreasing_by
  rw [List.length_drop, ripEntrySize]
  omega

/-- The body has to be whole entries; that there is a header before it is taken for granted. -/
def RipPacketData.fromSlice (data : List UInt8) : Checked (RipResult RipPacketData) := do
  let bodyLength ← checkedSub data.length ripHeaderSize
  if bodyLength % ripEntrySize ≠ 0 then
    return .error .malformedPacket
  match RipHeader.fromSlice (← sliceTo data ripHeaderSize) with
  | .error e => return .error e
  | .ok header =>
      match ← decodeEntries (← sliceFrom data ripHeaderSize) with
      | .error e => return .error e
      | .ok entries => return .ok { header, entries }

/-- The fields swapped, on a machine that has to swap them. -/
def RipEntry.toBe (endian : Endian) (entry : RipEntry) : RipEntry where
  routingFamilyId := UInt16.ofNat (endian.toBe 2 entry.routingFamilyId.toNat)
  routeTag := UInt16.ofNat (endian.toBe 2 entry.routeTag.toNat)
  ipAddress := UInt32.ofNat (endian.toBe 4 entry.ipAddress.toNat)
  subnetMask := UInt32.ofNat (endian.toBe 4 entry.subnetMask.toNat)
  nextHop := UInt32.ofNat (endian.toBe 4 entry.nextHop.toNat)
  metric := UInt32.ofNat (endian.toBe 4 entry.metric.toNat)

/-- The memory of a header: its fields in order, without gaps. -/
def RipHeader.asBytes (endian : Endian) (header : RipHeader) : List UInt8 :=
  header.command :: header.version :: endian.nativeBytes 2 header.padding.toNat

/-- The memory of an entry: its fields in order, without gaps. -/
def RipEntry.asBytes (endian : Endian) (entry : RipEntry) : List UInt8 :=
  endian.nativeBytes 2 entry.routingFamilyId.toNat ++
    (endian.nativeBytes 2 entry.routeTag.toNat ++
      (endian.nativeBytes 4 entry.ipAddress.toNat ++
        (endian.nativeBytes 4 entry.subnetMask.toNat ++
          (endian.nativeBytes 4 entry.nextHop.toNat ++
            endian.nativeBytes 4 entry.metric.toNat))))

@[simp] theorem RipHeader.asBytes_length (endian : Endian) (header : RipHeader) :
    (header.asBytes endian).length = ripHeaderSize := by
  simp [RipHeader.asBytes, ripHeaderSize]

@[simp] theorem RipEntry.asBytes_length (endian : Endian) (entry : RipEntry) :
    (entry.asBytes endian).length = ripEntrySize := by
  simp [RipEntry.asBytes, ripEntrySize]

theorem beAt_append_of_le {front back : List UInt8} {offset n : Nat}
    (h : front.length ≤ offset) :
    beAt (front ++ back) offset n = beAt back (offset - front.length) n := by
  rw [beAt, beAt, List.drop_append, List.drop_eq_nil_of_le h, List.nil_append]

theorem beAt_native_append (endian : Endian) {n x : Nat} (hx : x < 256 ^ n)
    (back : List UInt8) :
    beAt (endian.nativeBytes n (endian.toBe n x) ++ back) 0 n = x := by
  rw [beAt, List.drop_zero, List.take_left' (by simp)]
  exact fromBeBytes_nativeBytes_toBe endian n x hx

private theorem toBe_toNat16 (endian : Endian) (x : UInt16) :
    (UInt16.ofNat (endian.toBe 2 x.toNat)).toNat = endian.toBe 2 x.toNat := by
  have h := endian.toBe_lt 2 x.toNat (by simpa using x.toNat_lt)
  rw [UInt16.toNat_ofNat']
  exact Nat.mod_eq_of_lt h

private theorem toBe_toNat32 (endian : Endian) (x : UInt32) :
    (UInt32.ofNat (endian.toBe 4 x.toNat)).toNat = endian.toBe 4 x.toNat := by
  have h := endian.toBe_lt 4 x.toNat (by simpa using x.toNat_lt)
  rw [UInt32.toNat_ofNat']
  exact Nat.mod_eq_of_lt h

theorem beAt_native (endian : Endian) {n x : Nat} (hx : x < 256 ^ n) :
    beAt (endian.nativeBytes n (endian.toBe n x)) 0 n = x := by
  simpa using beAt_native_append endian hx []

theorem RipEntry.fromSlice_asBytes_toBe (endian : Endian) (entry : RipEntry) :
    RipEntry.fromSlice ((entry.toBe endian).asBytes endian) = .ok entry := by
  have h16 : ∀ x : UInt16, x.toNat < 256 ^ 2 := fun x => by simpa using x.toNat_lt
  have h32 : ∀ x : UInt32, x.toNat < 256 ^ 4 := fun x => by simpa using x.toNat_lt
  rw [RipEntry.fromSlice, if_neg (by simp)]
  simp only [RipEntry.asBytes, RipEntry.toBe, toBe_toNat16, toBe_toNat32]
  -- each field is read after skipping the fields before it
  simp (disch := simp) only [beAt_append_of_le, Endian.nativeBytes_length, Nat.reduceSub]
  simp only [beAt_native_append, beAt_native, h16, h32, UInt16.ofNat_toNat, UInt32.ofNat_toNat]

theorem decodeEntries_flatMap (endian : Endian) (entries : List RipEntry) :
    decodeEntries (entries.flatMap fun entry => (entry.toBe endian).asBytes endian) =
      .ok (.ok entries) := by
  induction entries with
  | nil =>
      rw [decodeEntries]
      rfl
  | cons entry entries ih =>
      have hlength := RipEntry.asBytes_length endian (entry.toBe endian)
      rw [List.flatMap_cons, decodeEntries, if_pos (by simp [ripEntrySize]),
        if_pos (by simp), List.take_left' hlength, List.drop_left' hlength,
        RipEntry.fromSlice_asBytes_toBe, ih]

theorem RipHeader.fromSlice_asBytes (endian : Endian) (command version : UInt8) :
    RipHeader.fromSlice (RipHeader.asBytes endian { command, version, padding := 0 }) =
      .ok { command, version, padding := 0 } := by
  cases endian <;>
    simp [RipHeader.fromSlice, RipHeader.asBytes, ripHeaderSize, beAt, fromBeBytes, ofLeBytes,
      Endian.nativeBytes, leBytes]

theorem RipPacketData.fromSlice_encoding (endian : Endian) (command version : UInt8)
    (entries : List RipEntry) :
    RipPacketData.fromSlice (RipHeader.asBytes endian { command, version, padding := 0 } ++
        entries.flatMap fun entry => (entry.toBe endian).asBytes endian) =
      .ok (.ok { header := { command, version, padding := 0 }, entries }) := by
  have hheader := RipHeader.asBytes_length endian { command, version, padding := 0 }
  have hentries : (entries.flatMap fun entry => (entry.toBe endian).asBytes endian).length =
      entries.length * ripEntrySize := by
    simp [List.length_flatMap, List.map_const']
  have hsub : checkedSub (ripHeaderSize + entries.length * ripEntrySize) ripHeaderSize =
      .ok (entries.length * ripEntrySize) := by
    rw [checkedSub, if_pos (by omega), Nat.add_sub_cancel_left]
  rw [RipPacketData.fromSlice, List.length_append, hheader, hentries, hsub]
  simp only [sliceTo, sliceFrom, List.length_append, hheader, Nat.le_add_right, if_true,
    List.take_left' hheader, List.drop_left' hheader]
  change (if entries.length * ripEntrySize % ripEntrySize ≠ 0 then _ else _) = _
  rw [if_neg (by simp)]
  simp [RipHeader.fromSlice_asBytes, decodeEntries_flatMap, bind, Except.bind, pure, Except.pure]

theorem slice_length {data : List UInt8} {offset n : Nat} (h : offset + n ≤ data.length) :
    ((data.drop offset).take n).length = n := by
  rw [List.length_take, List.length_drop]
  omega

theorem nativeBytes_toBe_beAt (endian : Endian) {data : List UInt8} {offset n : Nat}
    (h : offset + n ≤ data.length) :
    endian.nativeBytes n (endian.toBe n (beAt data offset n)) = (data.drop offset).take n := by
  have hbytes := endian.nativeBytes_toBe_fromBeBytes ((data.drop offset).take n)
  rwa [slice_length h] at hbytes

theorem beAt_lt {data : List UInt8} {offset n : Nat} (h : offset + n ≤ data.length) :
    beAt data offset n < 256 ^ n := by
  have hlt := fromBeBytes_lt ((data.drop offset).take n)
  rwa [slice_length h] at hlt

theorem slice_append (data : List UInt8) (offset n : Nat) :
    (data.drop offset).take n ++ data.drop (offset + n) = data.drop offset := by
  rw [← List.drop_drop, List.take_append_drop]

theorem ofNat_beAt16 {data : List UInt8} {offset : Nat} (h : offset + 2 ≤ data.length) :
    (UInt16.ofNat (beAt data offset 2)).toNat = beAt data offset 2 := by
  rw [UInt16.toNat_ofNat']
  exact Nat.mod_eq_of_lt (beAt_lt h)

theorem ofNat_beAt32 {data : List UInt8} {offset : Nat} (h : offset + 4 ≤ data.length) :
    (UInt32.ofNat (beAt data offset 4)).toNat = beAt data offset 4 := by
  rw [UInt32.toNat_ofNat']
  exact Nat.mod_eq_of_lt (beAt_lt h)

theorem RipEntry.asBytes_toBe_of_fromSlice (endian : Endian) {data : List UInt8}
    {entry : RipEntry} (h : RipEntry.fromSlice data = .ok entry) :
    (entry.toBe endian).asBytes endian = data := by
  rw [RipEntry.fromSlice] at h
  split_ifs at h with hlength
  rw [not_not, ripEntrySize] at hlength
  obtain rfl := Except.ok.inj h
  simp only [RipEntry.asBytes, RipEntry.toBe, toBe_toNat16, toBe_toNat32]
  simp (disch := omega) only [ofNat_beAt16, ofNat_beAt32, nativeBytes_toBe_beAt]
  -- the fields lie one behind the other up to the end of the entry
  have hlast : (data.drop 16).take 4 = data.drop 16 :=
    List.take_of_length_le (by rw [List.length_drop]; omega)
  rw [hlast, slice_append data 12 4, slice_append data 8 4, slice_append data 4 4,
    slice_append data 2 2, slice_append data 0 2, List.drop_zero]

theorem flatMap_of_decodeEntries (endian : Endian) {data : List UInt8} {entries : List RipEntry}
    (h : decodeEntries data = .ok (.ok entries)) :
    (entries.flatMap fun entry => (entry.toBe endian).asBytes endian) = data := by
  fun_induction decodeEntries data generalizing entries with
  | case1 data hpos hsize e hentry => simp at h
  | case2 data hpos hsize entry hentry rest hrest ih =>
      obtain rfl : entry :: rest = entries := by simpa using h
      rw [List.flatMap_cons, ih hrest, RipEntry.asBytes_toBe_of_fromSlice endian hentry,
        List.take_append_drop]
  | case3 data hpos hsize entry hentry hother ih => exact absurd h (hother entries)
  | case4 data hpos hsize => simp at h
  | case5 data hpos =>
      obtain rfl : [] = entries := by simpa using h
      exact (List.eq_nil_of_length_eq_zero (by omega)).symm

theorem RipPacketData.fromSlice_ok {bytes : List UInt8} {data : RipPacketData}
    (h : RipPacketData.fromSlice bytes = .ok (.ok data)) :
    RipHeader.fromSlice (bytes.take ripHeaderSize) = .ok data.header ∧
      decodeEntries (bytes.drop ripHeaderSize) = .ok (.ok data.entries) := by
  rw [RipPacketData.fromSlice, checkedSub] at h
  by_cases hsize : ripHeaderSize ≤ bytes.length
  · rw [if_pos hsize] at h
    simp only [bind, Except.bind] at h
    split_ifs at h with hbody
    · simp [pure, Except.pure] at h
    · simp only [sliceTo, sliceFrom, if_pos hsize] at h
      cases hheader : RipHeader.fromSlice (bytes.take ripHeaderSize) with
      | error e => simp [hheader, pure, Except.pure] at h
      | ok header =>
          cases hentries : decodeEntries (bytes.drop ripHeaderSize) with
          | error panic => simp [hheader, hentries] at h
          | ok result =>
              cases result with
              | error e => simp [hheader, hentries, pure, Except.pure] at h
              | ok entries =>
                  obtain rfl : { header, entries } = data := by
                    simpa [hheader, hentries, pure, Except.pure] using h
                  exact ⟨rfl, rfl⟩
  · simp [if_neg hsize, bind, Except.bind] at h

end RipV2.Packets
