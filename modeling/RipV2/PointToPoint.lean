import Mathlib.Combinatorics.SimpleGraph.Basic
import RipV2.SentDatagrams

/-!
Routers joined by point-to-point links, and rounds in which every router
advertises on all its links and then handles everything that it received.
-/

namespace RipV2.PointToPoint

open RipV2.AdvertisedBuffers
open RipV2.Database
open RipV2.Deamon
open RipV2.Deamon.RipDeamon
open RipV2.DeamonRuns
open RipV2.DeamonSimulation
open RipV2.HostEnvironment
open RipV2.Packets
open RipV2.ReachableRoutes
open RipV2.Results
open RipV2.RoutingTables
open RipV2.TransitionRuns
open RipV2.Updater

/-- An interface at one end of a link. -/
structure Port where
  ifName : String
  ifIndex : UInt32
  address : UInt32
deriving DecidableEq

/-- The other end of the link at each port. Indices tell the ports of a router
apart, addresses all ports. -/
structure Links (Router : Type) where
  ports : Router → List Port
  peer : Router → Port → Router × Port
  peer_mem : ∀ router, ∀ port ∈ ports router,
    (peer router port).2 ∈ ports (peer router port).1
  peer_peer : ∀ router, ∀ port ∈ ports router,
    peer (peer router port).1 (peer router port).2 = (router, port)
  ifIndex_inj : ∀ router, ∀ port ∈ ports router, ∀ port' ∈ ports router,
    port.ifIndex = port'.ifIndex → port = port'
  address_inj : ∀ router router', ∀ port ∈ ports router, ∀ port' ∈ ports router',
    port.address = port'.address → router = router' ∧ port = port'
  address_ne_zero : ∀ router, ∀ port ∈ ports router, port.address ≠ 0

variable {Router Driver : Type}

/-- Who is at the other end of one of whose ports. -/
def Links.graph (links : Links Router) : SimpleGraph Router :=
  .fromRel fun router router' => ∃ port ∈ links.ports router, (links.peer router port).1 = router'

theorem Links.adj_peer (links : Links Router) {router : Router} {port : Port}
    (hport : port ∈ links.ports router) :
    links.graph.Adj (links.peer router port).1 router ∨ (links.peer router port).1 = router := by
  by_cases hsame : (links.peer router port).1 = router
  · exact .inr hsame
  · refine .inl ((SimpleGraph.fromRel_adj _ _ _).mpr ⟨hsame, .inr ⟨port, hport, rfl⟩⟩)

theorem Links.exists_port (links : Links Router) {router router' : Router}
    (h : links.graph.Adj router' router) :
    ∃ port ∈ links.ports router, (links.peer router port).1 = router' := by
  obtain ⟨-, ⟨port, hport, hpeer⟩ | hpeer⟩ := (SimpleGraph.fromRel_adj _ _ _).mp h
  · refine ⟨(links.peer router' port).2, ?_, ?_⟩
    · have hmem := links.peer_mem router' port hport
      rwa [hpeer] at hmem
    · have hback := links.peer_peer router' port hport
      rw [hpeer] at hback
      rw [hback]
  · exact hpeer

/-- The packet in a datagram that goes from one end of a link to the other. -/
def delivered (sender receiver : Port) (transmission : Transmission) : Option RipPacket :=
  match RipPacketData.fromSlice transmission.payload with
  | .ok (.ok data) => some {
      data
      ifInfo := { ifName := receiver.ifName, ifIndex := receiver.ifIndex }
      source := { ip := sender.address, port := ripUdpPort } }
  | _ => none

/-- Everything that the peers of a router have sent on its links. -/
def arrivals (links : Links Router) (sent : Router → List Transmission) (router : Router) :
    List RipPacket :=
  (links.ports router).flatMap fun port =>
    let peer := links.peer router port
    ((sent peer.1).filter fun transmission => transmission.ifIndex = peer.2.ifIndex).filterMap
      (delivered peer.2 port)

variable [RoutingTableDriver Driver]

/-- Every router sends its full advertisement, and then handles the packets that
its peers have sent, each once and in any order. -/
def Round (links : Links Router) (deamons : Router → RipDeamon Driver) (_ : Unit)
    (deamons' : Router → RipDeamon Driver) : Prop :=
  ∃ (advertised : Router → RipDeamon Driver) (sent : Router → List Transmission), ∀ router,
    (∃ answers, Step (deamons router) (answers, .advertise false) (advertised router)) ∧
    (advertised router).host.sent = (deamons router).host.sent ++ sent router ∧
    ∃ labels, Run Attempted (advertised router) labels (deamons' router) ∧
      (labels.map Prod.snd).Perm ((arrivals links sent router).map .received)

theorem exists_run_attempted (deamon : RipDeamon Driver) (labels : List (Answers × DeamonEvent)) :
    ∃ deamon', Run Attempted deamon labels deamon' := by
  induction labels using List.reverseRecOn with
  | nil => exact ⟨deamon, .nil⟩
  | append_singleton labels label ih =>
      obtain ⟨deamon₁, hrun⟩ := ih
      exact ⟨_, hrun.snoc ⟨_, ⟨_, ⟨deamon₁.database, .refl _, rfl⟩, rfl⟩, rfl⟩⟩

theorem exists_round (links : Links Router) (deamons : Router → RipDeamon Driver)
    {answers : Answers} (hreliable : answers.Reliable) :
    ∃ deamons', Round links deamons () deamons' := by
  have hadvertised : ∀ router, ∃ advertised sent,
      Step (deamons router) (answers, .advertise false) advertised ∧
        advertised.host.sent = (deamons router).host.sent ++ sent := by
    intro router
    have hsucceeds := (@sendMulticastAdvertisement_reliable Driver false
      { deamons router with host := (deamons router).host.renew answers } hreliable).1
    cases hrun : (sendMulticastAdvertisement false).run
        { deamons router with host := (deamons router).host.renew answers } with
    | error e advertised =>
        rw [hrun] at hsucceeds
        exact absurd hsucceeds (by simp)
    | ok a advertised =>
        obtain ⟨host, rfl, hsent⟩ := sendMulticastAdvertisement_ok hrun
        exact ⟨_, _, ⟨_, ⟨(deamons router).database, .refl _, rfl⟩, hrun⟩, hsent⟩
  choose advertised sent hstep hsent using hadvertised
  choose deamons' hrun using fun router => exists_run_attempted (advertised router)
    ((arrivals links sent router).map fun packet => (answers, .received packet))
  refine ⟨deamons', advertised, sent, fun router => ⟨⟨answers, hstep router⟩, hsent router, _,
    hrun router, ?_⟩⟩
  rw [List.map_map]
  rfl

omit [RoutingTableDriver Driver] in
theorem mem_arrivals_iff {links : Links Router} {sent : Router → List Transmission}
    {router : Router} {packet : RipPacket} :
    packet ∈ arrivals links sent router ↔
      ∃ port ∈ links.ports router, ∃ transmission ∈ sent (links.peer router port).1,
        transmission.ifIndex = (links.peer router port).2.ifIndex ∧
        delivered (links.peer router port).2 port transmission = some packet := by
  simp [arrivals, and_assoc]

theorem advertise_step {deamon deamon' : RipDeamon Driver} {answers : Answers}
    {sent : List Transmission} (hstep : Step deamon (answers, .advertise false) deamon')
    (hsent : deamon'.host.sent = deamon.host.sent ++ sent) :
    ∃ database, deamon.database.Reordered database ∧
      sent = advertisement answers.endian database deamon.interfaces false ∧
      deamon'.interfaces = deamon.interfaces ∧
      deamon'.database = database.markAllRoutesAsUnchanged := by
  obtain ⟨deamon₀, ⟨database, hreordered, rfl⟩, hrun⟩ := hstep
  obtain ⟨host, rfl, hall⟩ := sendMulticastAdvertisement_ok hrun
  refine ⟨database, hreordered, ?_, rfl, rfl⟩
  exact List.append_cancel_left (hsent.symm.trans hall)

theorem arrival_stored {links : Links Router} {deamons advertised : Router → RipDeamon Driver}
    {sent : Router → List Transmission}
    (hadvertised : ∀ router, ∃ answers,
      Step (deamons router) (answers, .advertise false) (advertised router))
    (hsent : ∀ router, (advertised router).host.sent = (deamons router).host.sent ++ sent router)
    {router : Router} {packet : RipPacket} (h : packet ∈ arrivals links sent router) :
    ∃ port ∈ links.ports router, accepted packet = true ∧
      packet.ifInfo = { ifName := port.ifName, ifIndex := port.ifIndex } ∧
      packet.source.ip = (links.peer router port).2.address ∧
      ∀ raw ∈ packet.data.entries,
        ∃ route ∈ storedRoutes (deamons (links.peer router port).1).database,
          route.ifIndex ≠ (links.peer router port).2.ifIndex ∧ route.advertised = raw := by
  obtain ⟨port, hport, transmission, hmem, hindex, hdelivered⟩ := mem_arrivals_iff.mp h
  obtain ⟨answers, hstep⟩ := hadvertised (links.peer router port).1
  obtain ⟨database, hreordered, hall, -⟩ := advertise_step hstep (hsent _)
  rw [hall] at hmem
  obtain ⟨entries, hdecode, hentries⟩ := decode_of_mem_advertisement hmem
  rw [delivered, hdecode] at hdelivered
  obtain rfl := Option.some.inj hdelivered
  refine ⟨port, hport, rfl, rfl, rfl, fun raw hraw => ?_⟩
  obtain ⟨route, hroute, rfl⟩ := Multiset.mem_map.mp (hentries raw hraw)
  obtain ⟨hstored, hother, -⟩ := Multiset.mem_filter.mp hroute
  rw [storedRoutes_reordered hreordered] at hstored
  rw [hindex] at hother
  exact ⟨route, hstored, hother, rfl⟩

theorem stored_arrives {links : Links Router} {deamons advertised : Router → RipDeamon Driver}
    {sent : Router → List Transmission}
    (hadvertised : ∀ router, ∃ answers,
      Step (deamons router) (answers, .advertise false) (advertised router))
    (hsent : ∀ router, (advertised router).host.sent = (deamons router).host.sent ++ sent router)
    {router : Router} {port : Port} (hport : port ∈ links.ports router) {ifc : RipIfc}
    (hifc : ifc ∈ (deamons (links.peer router port).1).interfaces)
    (hindex : ifc.tx.ifIndex = (links.peer router port).2.ifIndex) {route : RipDbEntry}
    (hroute : route ∈ storedRoutes (deamons (links.peer router port).1).database)
    (hother : route.ifIndex ≠ (links.peer router port).2.ifIndex) :
    ∃ packet ∈ arrivals links sent router, accepted packet = true ∧
      route.advertised ∈ packet.data.entries := by
  obtain ⟨answers, hstep⟩ := hadvertised (links.peer router port).1
  obtain ⟨database, hreordered, hall, -⟩ := advertise_step hstep (hsent _)
  rw [← storedRoutes_reordered hreordered, storedRoutes_eq, Multiset.mem_coe] at hroute
  have hentry : route.advertised ∈ database.getRoutesForAdvertisement ifc.tx.ifIndex false :=
    RipDatabase.mem_getRoutesForAdvertisement_iff.mpr
      ⟨route, hroute, by simp, by rwa [hindex], rfl⟩
  obtain ⟨entries, hmem, htransmission⟩ :=
    exists_transmission_of_mem answers.endian hifc hentry
  rw [← hall] at htransmission
  have hdelivered : delivered (links.peer router port).2 port
      (ifc.tx.multicast (buildResponseBuffer answers.endian entries)) = some {
        data := responseData entries
        ifInfo := { ifName := port.ifName, ifIndex := port.ifIndex }
        source := { ip := (links.peer router port).2.address, port := ripUdpPort } } := by
    rw [delivered]
    change (match RipPacketData.fromSlice (buildResponseBuffer answers.endian entries) with
      | .ok (.ok data) => some _
      | _ => none) = _
    rw [fromSlice_buildResponseBuffer]
    rfl
  exact ⟨_, mem_arrivals_iff.mpr ⟨port, hport, _, htransmission, hindex, hdelivered⟩, rfl, hmem⟩

end RipV2.PointToPoint
