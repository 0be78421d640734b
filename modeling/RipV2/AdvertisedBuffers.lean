import Mathlib.Data.Multiset.Filter
import Mathlib.Data.Multiset.MapFold
import RipV2.Updater

namespace RipV2.AdvertisedBuffers

open RipV2.ByteOrder
open RipV2.Chunks
open RipV2.Database
open RipV2.HostEnvironment
open RipV2.Packets
open RipV2.Updater

/-- The routes of both maps, one for each key of each map. -/
def storedRoutes (database : RipDatabase) : Multiset RipDbEntry :=
  (database.okRoutes.values : Multiset RipDbEntry) + database.garbageRoutes.values

/-- The route is to be announced on an interface. -/
def AnnouncedOn (targetIfIndex : UInt32) (changedOnly : Bool) (route : RipDbEntry) : Prop :=
  route.ifIndex ≠ targetIfIndex ∧ (changedOnly = true → route.changed = true)

instance (targetIfIndex : UInt32) (changedOnly : Bool) :
    DecidablePred (AnnouncedOn targetIfIndex changedOnly) := fun _ =>
  inferInstanceAs (Decidable (_ ∧ _))

theorem storedRoutes_eq (database : RipDatabase) :
    storedRoutes database = (database.allRoutes : Multiset RipDbEntry) :=
  Multiset.coe_add _ _

theorem mem_storedRoutes_iff {database : RipDatabase} {route : RipDbEntry} :
    route ∈ storedRoutes database ↔
      (∃ key, database.okRoutes.lookup key = some route) ∨
        ∃ key, database.garbageRoutes.lookup key = some route := by
  rw [storedRoutes_eq, Multiset.mem_coe, RipDatabase.mem_allRoutes_iff]

theorem storedRoutes_reordered {database database' : RipDatabase}
    (h : database.Reordered database') : storedRoutes database' = storedRoutes database := by
  rw [storedRoutes, storedRoutes, Multiset.coe_eq_coe.mpr h.okRoutes.perm_values,
    Multiset.coe_eq_coe.mpr h.garbageRoutes.perm_values]

/-- What is to be announced on an interface, one entry for each route. -/
def announcedEntries (targetIfIndex : UInt32) (changedOnly : Bool) (database : RipDatabase) :
    Multiset RipEntry :=
  ((storedRoutes database).filter (AnnouncedOn targetIfIndex changedOnly)).map
    RipDbEntry.advertised

theorem getRoutesForAdvertisement_eq (database : RipDatabase) (targetIfIndex : UInt32)
    (changedOnly : Bool) :
    (database.getRoutesForAdvertisement targetIfIndex changedOnly : Multiset RipEntry) =
      announcedEntries targetIfIndex changedOnly database := by
  rw [announcedEntries, storedRoutes_eq, Multiset.filter_coe, Multiset.map_coe,
    RipDatabase.getRoutesForAdvertisement]
  congr 2
  apply List.filter_congr
  intro route _
  rw [Bool.eq_iff_iff, decide_eq_true_eq, AnnouncedOn]
  cases changedOnly <;> cases route.changed <;> simp

/-- The packet that a piece of the list of entries becomes. -/
def responseData (entries : List RipEntry) : RipPacketData where
  header := responseHeader
  entries := entries

theorem fromSlice_buildResponseBuffers (endian : Endian) (database : RipDatabase)
    (targetIfIndex : UInt32) (changedOnly : Bool) :
    (buildResponseBuffers endian database targetIfIndex changedOnly).map
        RipPacketData.fromSlice =
      (chunks ripResponseMaxEntries
        (database.getRoutesForAdvertisement targetIfIndex changedOnly)).map
        fun entries => .ok (.ok (responseData entries)) := by
  rw [buildResponseBuffers, List.map_map]
  apply List.map_congr_left
  intro entries _
  exact fromSlice_buildResponseBuffer endian entries

/-- The buffers decode to packets that hold one entry for each route to be
announced, in any order of the maps; all but the last are full and none is empty. -/
theorem buildResponseBuffers_decode (endian : Endian) (database : RipDatabase)
    (targetIfIndex : UInt32) (changedOnly : Bool) :
    ∃ packets : List RipPacketData,
      (buildResponseBuffers endian database targetIfIndex changedOnly).map
          RipPacketData.fromSlice = packets.map (fun data => .ok (.ok data)) ∧
      ((packets.flatMap RipPacketData.entries : List RipEntry) : Multiset RipEntry) =
        announcedEntries targetIfIndex changedOnly database ∧
      (∀ data ∈ packets, 1 ≤ data.entries.length ∧ data.entries.length ≤ 25) ∧
      (∀ data ∈ packets.dropLast, data.entries.length = 25) ∧
      (buildResponseBuffers endian database targetIfIndex changedOnly = [] ↔
        ∀ route ∈ storedRoutes database, ¬AnnouncedOn targetIfIndex changedOnly route) ∧
      ∀ database', database.Reordered database' →
        announcedEntries targetIfIndex changedOnly database' =
          announcedEntries targetIfIndex changedOnly database := by
  refine ⟨(chunks ripResponseMaxEntries (database.getRoutesForAdvertisement targetIfIndex
    changedOnly)).map responseData, ?_, ?_, ?_, ?_, ?_, ?_⟩
  · rw [fromSlice_buildResponseBuffers, List.map_map]
    rfl
  · rw [← getRoutesForAdvertisement_eq]
    congr 1
    rw [List.flatMap_map]
    exact List.flatMap_id.trans (flatten_chunks _ _)
  · intro data hdata
    obtain ⟨entries, hchunk, rfl⟩ := List.mem_map.mp hdata
    exact length_of_mem_chunks (by decide) hchunk
  · intro data hdata
    rw [← List.map_dropLast] at hdata
    obtain ⟨entries, hchunk, rfl⟩ := List.mem_map.mp hdata
    exact length_of_mem_dropLast_chunks (by decide) hchunk
  · rw [buildResponseBuffers, List.map_eq_nil_iff, chunks_eq_nil_iff, ← Multiset.coe_eq_zero,
      getRoutesForAdvertisement_eq, announcedEntries, Multiset.map_eq_zero,
      Multiset.filter_eq_nil]
  · intro database' hreordered
    rw [announcedEntries, announcedEntries, storedRoutes_reordered hreordered]

/-- The datagram of an interface holds this packet. -/
def Carries (transmission : Transmission) (packet : RipIfc × RipPacketData) : Prop :=
  transmission = packet.1.tx.multicast transmission.payload ∧
    RipPacketData.fromSlice transmission.payload = .ok (.ok packet.2)

/-- The packets of an advertisement on one interface. -/
def packetsOn (database : RipDatabase) (changedOnly : Bool) (ifc : RipIfc) :
    List RipPacketData :=
  (chunks ripResponseMaxEntries
    (database.getRoutesForAdvertisement ifc.tx.ifIndex changedOnly)).map responseData

theorem packetsOn_entries (database : RipDatabase) (changedOnly : Bool) (ifc : RipIfc) :
    (((packetsOn database changedOnly ifc).flatMap RipPacketData.entries : List RipEntry) :
      Multiset RipEntry) = announcedEntries ifc.tx.ifIndex changedOnly database := by
  rw [← getRoutesForAdvertisement_eq, packetsOn, List.flatMap_map]
  congr 1
  exact List.flatMap_id.trans (flatten_chunks _ _)

theorem advertisementOn_carries (endian : Endian) (database : RipDatabase) (changedOnly : Bool)
    (ifc : RipIfc) :
    List.Forall₂ Carries (advertisementOn endian database changedOnly ifc)
      ((packetsOn database changedOnly ifc).map fun data => (ifc, data)) := by
  rw [advertisementOn, buildResponseBuffers, packetsOn, List.map_map, List.map_map,
    List.forall₂_map_left_iff, List.forall₂_map_right_iff, List.forall₂_same]
  intro entries _
  exact ⟨rfl, fromSlice_buildResponseBuffer endian entries⟩

theorem advertisement_carries (endian : Endian) (database : RipDatabase)
    (interfaces : List RipIfc) (changedOnly : Bool) :
    List.Forall₂ Carries (advertisement endian database interfaces changedOnly)
      (interfaces.flatMap fun ifc =>
        (packetsOn database changedOnly ifc).map fun data => (ifc, data)) := by
  induction interfaces with
  | nil => exact .nil
  | cons ifc interfaces ih =>
      rw [advertisement, List.flatMap_cons, List.flatMap_cons]
      exact List.rel_append (advertisementOn_carries endian database changedOnly ifc) ih

theorem decode_of_mem_buffers {endian : Endian} {database : RipDatabase}
    {targetIfIndex : UInt32} {changedOnly : Bool} {buffer : List UInt8}
    (h : buffer ∈ buildResponseBuffers endian database targetIfIndex changedOnly) :
    ∃ entries, RipPacketData.fromSlice buffer = .ok (.ok (responseData entries)) ∧
      ∀ entry ∈ entries, entry ∈ announcedEntries targetIfIndex changedOnly database := by
  obtain ⟨entries, hchunk, rfl⟩ := List.mem_map.mp h
  refine ⟨entries, fromSlice_buildResponseBuffer endian entries, fun entry hentry => ?_⟩
  rw [← getRoutesForAdvertisement_eq]
  exact mem_of_mem_chunk hchunk hentry

theorem decode_of_mem_advertisement {endian : Endian} {database : RipDatabase}
    {interfaces : List RipIfc} {changedOnly : Bool} {transmission : Transmission}
    (h : transmission ∈ advertisement endian database interfaces changedOnly) :
    ∃ entries, RipPacketData.fromSlice transmission.payload = .ok (.ok (responseData entries)) ∧
      ∀ entry ∈ entries,
        entry ∈ announcedEntries transmission.ifIndex changedOnly database := by
  obtain ⟨ifc, hifc, hon⟩ := List.mem_flatMap.mp h
  obtain ⟨buffer, hbuffer, rfl⟩ := List.mem_map.mp hon
  exact decode_of_mem_buffers hbuffer

theorem stored_of_mem_announcedEntries {database : RipDatabase} {targetIfIndex : UInt32}
    {changedOnly : Bool} {entry : RipEntry}
    (h : entry ∈ announcedEntries targetIfIndex changedOnly database) :
    ∃ route ∈ storedRoutes database, route.advertised = entry := by
  obtain ⟨route, hroute, rfl⟩ := Multiset.mem_map.mp h
  exact ⟨route, (Multiset.mem_filter.mp hroute).1, rfl⟩

end RipV2.AdvertisedBuffers
