import RipV2.AdvertisedBuffers
import RipV2.HandlerRules

namespace RipV2.SentDatagrams

open RipV2.AdvertisedBuffers
open RipV2.ByteOrder
open RipV2.Deamon
open RipV2.Deamon.RipDeamon
open RipV2.DeamonRuns
open RipV2.DeamonSimulation
open RipV2.EffectLogic
open RipV2.HandlerRules
open RipV2.HostEnvironment
open RipV2.Packets
open RipV2.ResponseEntries
open RipV2.RoutingTables
open RipV2.Updater

variable {Driver : Type}

theorem sendMulticastAdvertisement_sent (changedOnly : Bool) (deamon : RipDeamon Driver) :
    let res := (sendMulticastAdvertisement changedOnly).run deamon
    let full := advertisement deamon.host.answers.endian deamon.database deamon.interfaces
      changedOnly
    (finalState res).routingTable = deamon.routingTable ∧
      ∃ sent, (finalState res).host.sent = deamon.host.sent ++ sent ∧ sent <+: full ∧
        (succeeded res = true → sent = full) := by
  intro res full
  obtain ⟨sent, hpart, hsent, -, hall, -⟩ := sends_advertisement deamon.host.answers.endian
    deamon.database deamon.interfaces changedOnly deamon.host rfl
  simp only [res, sendMulticastAdvertisement_run]
  cases hrun : (ripSendAdvertisementMulticast deamon.database deamon.interfaces
      changedOnly).run deamon.host with
  | ok a host =>
      rw [hrun] at hsent hall
      exact ⟨rfl, sent, hsent, hpart, fun _ => hall rfl⟩
  | error e host =>
      rw [hrun] at hsent
      exact ⟨rfl, sent, hsent, hpart, fun hsucceeds => absurd hsucceeds (by simp)⟩

theorem silent : Quiet fun deamon deamon' : RipDeamon Driver => Silent deamon deamon' where
  refl := Silent.refl
  trans _ _ _ := Silent.trans
  clock := evolves_now
  routingTable _ _ := ⟨rfl, rfl⟩
  database _ _ _ := ⟨rfl, rfl⟩

/-- What a daemon sends in answer to an event if no send fails. -/
def datagrams (deamon : RipDeamon Driver) : DeamonEvent → List Transmission
  | .received packet =>
      if packet.isRequest then
        unicastResponse deamon.host.answers.endian deamon.database packet.source packet.ifInfo
      else []
  | .advertise changedOnly =>
      advertisement deamon.host.answers.endian deamon.database deamon.interfaces changedOnly
  | .sendRequests =>
      deamon.interfaces.map fun ifc => ifc.tx.multicast (requestBuffer deamon.host.answers.endian)
  | _ => []

theorem stored_of_mem_datagrams {deamon : RipDeamon Driver} {event : DeamonEvent}
    {transmission : Transmission} (h : transmission ∈ datagrams deamon event)
    {data : RipPacketData}
    (hdecode : RipPacketData.fromSlice transmission.payload = .ok (.ok data))
    (hresponse : data.isResponse = true) {entry : RipEntry} (hentry : entry ∈ data.entries) :
    ∃ route ∈ storedRoutes deamon.database, route.advertised = entry := by
  cases event with
  | received packet =>
      rw [datagrams] at h
      split_ifs at h
      · obtain ⟨buffer, hbuffer, rfl⟩ := List.mem_map.mp h
        obtain ⟨entries, hdecode', hentries⟩ := decode_of_mem_buffers hbuffer
        obtain rfl : responseData entries = data := by
          simpa using hdecode'.symm.trans hdecode
        exact stored_of_mem_announcedEntries (hentries entry hentry)
      · simp at h
  | advertise changedOnly =>
      obtain ⟨entries, hdecode', hentries⟩ := decode_of_mem_advertisement h
      obtain rfl : responseData entries = data := by
        simpa using hdecode'.symm.trans hdecode
      exact stored_of_mem_announcedEntries (hentries entry hentry)
  | sendRequests =>
      obtain ⟨ifc, -, rfl⟩ := List.mem_map.mp h
      change RipPacketData.fromSlice (requestBuffer _) = _ at hdecode
      rw [fromSlice_requestBuffer] at hdecode
      obtain rfl := Except.ok.inj (Except.ok.inj hdecode)
      exact absurd hresponse (by decide)
  | _ => simp [datagrams] at h

/-- A failure to send may cut the list short. -/
def SendsPart (full : List Transmission) (deamon deamon' : RipDeamon Driver) : Prop :=
  deamon'.interfaces = deamon.interfaces ∧
    ∃ sent, deamon'.host.sent = deamon.host.sent ++ sent ∧ sent <+: full

theorem sendsPart_of_silent {full : List Transmission} {deamon deamon' : RipDeamon Driver}
    (h : Silent deamon deamon') : SendsPart full deamon deamon' :=
  ⟨h.interfaces, [], by rw [h.sent, List.append_nil], List.nil_prefix⟩

theorem socketIo_sendsPart {m : HostM String Unit} {full : Endian → List Transmission}
    (hm : ∀ endian, Sends endian (full endian) m) (deamon : RipDeamon Driver) :
    let res := (socketIo m).run deamon
    SendsPart (full deamon.host.answers.endian) deamon (finalState res) ∧
      (succeeded res = true → (finalState res).host.answers.endian = deamon.host.answers.endian ∧
        (finalState res).host.sent = deamon.host.sent ++ full deamon.host.answers.endian) := by
  intro res
  obtain ⟨sent, hpart, hsent, hendian, hall, -⟩ := hm _ deamon.host rfl
  simp only [res, socketIo, EStateM.run_adaptExcept, onHost, run_zoom]
  cases hrun : m.run deamon.host with
  | ok a host =>
      rw [hrun] at hsent hendian hall
      obtain rfl := hall rfl
      exact ⟨⟨rfl, _, hsent, hpart⟩, fun _ => ⟨hendian, hsent⟩⟩
  | error e host =>
      rw [hrun] at hsent
      exact ⟨⟨rfl, sent, hsent, hpart⟩, fun hsucceeds => absurd hsucceeds (by simp)⟩

theorem requests_sendsPart (interfaces : List RipIfc) (deamon : RipDeamon Driver) :
    SendsPart (interfaces.map fun ifc =>
        ifc.tx.multicast (requestBuffer deamon.host.answers.endian)) deamon
      (finalState ((interfaces.forM fun ifc =>
        (socketIo (ripSendRequestMulticast ifc.tx) : DeamonM Driver Unit)).run deamon)) := by
  induction interfaces generalizing deamon with
  | nil => exact sendsPart_of_silent (.refl deamon)
  | cons ifc interfaces ih =>
      obtain ⟨⟨hinterfaces, sent, hsent, hpart⟩, hall⟩ :=
        socketIo_sendsPart (fun endian => sends_requestMulticast endian ifc.tx) deamon
      simp only [List.forM_eq_forM, List.forM_cons, EStateM.run_bind, List.map_cons]
      cases hrun : (socketIo (ripSendRequestMulticast ifc.tx)).run deamon with
      | error e deamon₁ =>
          rw [hrun] at hinterfaces hsent
          exact ⟨hinterfaces, sent, hsent, hpart.trans (List.prefix_append _ _)⟩
      | ok a deamon₁ =>
          rw [hrun] at hinterfaces hall
          obtain ⟨hendian, hfirst⟩ := hall rfl
          obtain ⟨hinterfaces₁, rest, hrest, hpart₁⟩ := ih deamon₁
          rw [finalState_ok] at hinterfaces hendian hfirst
          rw [hendian] at hpart₁
          refine ⟨hinterfaces₁.trans hinterfaces, _ :: rest, ?_,
            List.cons_prefix_cons.mpr ⟨rfl, hpart₁⟩⟩
          rw [List.forM_eq_forM] at hrest
          rw [hrest, hfirst, List.append_assoc]
          rfl

variable [RoutingTableDriver Driver]

theorem handle_sendsPart (event : DeamonEvent) (deamon : RipDeamon Driver) :
    SendsPart (datagrams deamon event) deamon (finalState (event.handle.run deamon)) := by
  cases event with
  | addLocalRoute network =>
      exact sendsPart_of_silent (silent.setupAdvertisedNetwork network deamon)
  | httpRequest kind =>
      apply sendsPart_of_silent
      simp only [DeamonEvent.handle, finalState_discard]
      exact silent.handleHttpRequest kind deamon
  | received packet =>
      rw [DeamonEvent.handle, handlePacket, datagrams]
      split_ifs with hrequest hresponse
      · rw [EStateM.run_bind, EStateM.run_get]
        exact (socketIo_sendsPart (fun endian => sends_unicastResponse endian deamon.database
          packet.source packet.ifInfo) deamon).1
      · exact sendsPart_of_silent (silent.handleResponsePacket packet deamon)
      · exact sendsPart_of_silent (.refl deamon)
  | routeTimeoutTick timer =>
      apply sendsPart_of_silent
      simp only [DeamonEvent.handle, finalState_discard]
      exact silent.handleRouteTimeoutTick timer deamon
  | garbageCollectionTick timer =>
      apply sendsPart_of_silent
      simp only [DeamonEvent.handle, finalState_discard]
      exact silent.handleGarbageCollectionTick timer deamon
  | advertise changedOnly =>
      obtain ⟨-, sent, hsent, hpart, -⟩ := sendMulticastAdvertisement_sent changedOnly deamon
      refine ⟨?_, sent, hsent, hpart⟩
      rw [DeamonEvent.handle, sendMulticastAdvertisement_run]
      cases (ripSendAdvertisementMulticast deamon.database deamon.interfaces changedOnly).run
        deamon.host <;> rfl
  | sendRequests =>
      rw [DeamonEvent.handle, sendMulticastRequest, EStateM.run_bind, EStateM.run_get]
      exact requests_sendsPart deamon.interfaces deamon

end RipV2.SentDatagrams
