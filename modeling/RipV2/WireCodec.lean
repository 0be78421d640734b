import RipV2.Updater

namespace RipV2.WireCodec

open RipV2.ByteOrder
open RipV2.EffectLogic
open RipV2.HostEnvironment
open RipV2.Packets
open RipV2.Updater

theorem buildResponseBuffer_of_fromSlice (endian : Endian) {bytes : List UInt8}
    {data : RipPacketData} (h : RipPacketData.fromSlice bytes = .ok (.ok data))
    (hheader : bytes.take ripHeaderSize = [2, 2, 0, 0]) :
    buildResponseBuffer endian data.entries = bytes := by
  have hbytes : responseHeader.asBytes endian = [2, 2, 0, 0] := by
    cases endian <;> decide
  rw [buildResponseBuffer_eq, hbytes, flatMap_of_decodeEntries endian
    (RipPacketData.fromSlice_ok h).2, ← hheader, List.take_append_drop]

end RipV2.WireCodec
