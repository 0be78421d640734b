import Mathlib.Order.Filter.Finite
import RipV2.PointToPoint
import RipV2.SlotHistories

namespace RipV2.LinkDeliveries

open Filter
open RipV2.AdvertisedBuffers
open RipV2.ByteOrder
open RipV2.Database
open RipV2.Deamon
open RipV2.DeamonRuns
open RipV2.DeamonSimulation
open RipV2.DestinationSlots
open RipV2.Executions
open RipV2.HostEnvironment
open RipV2.Packets
open RipV2.PointToPoint
open RipV2.ReachableRoutes
open RipV2.Results
open RipV2.RoutingTables
open RipV2.SentDatagrams
open RipV2.SlotHistories
open RipV2.Updater

variable {Router Driver : Type} [RoutingTableDriver Driver]

section Definitions

variable (links : Links Router) (execution : Execution Router (@Step Driver _))

/-- What the router that acts at time `t` sends in its step. -/
def sentAt (t : ℕ) : List Transmission :=
  (execution.states (t + 1) (execution.actor t)).host.sent.drop
    (execution.states t (execution.actor t)).host.sent.length

/-- The packet was in a datagram that was sent at time `s` at the other end of the link. -/
def Delivers (s : ℕ) (router : Router) (port : Port) (packet : RipPacket) : Prop :=
  execution.actor s = (links.peer router port).1 ∧
    ∃ transmission ∈ sentAt execution s,
      transmission.ifIndex = (links.peer router port).2.ifIndex ∧
      delivered (links.peer router port).2 port transmission = some packet

/-- Every router goes on checking for timeouts, and no response stays in flight
forever: from some time on what is received was sent on a link, and not before `s`. -/
structure Fair : Prop where
  ticks : ∀ router, ∃ᶠ t in atTop, Ticks execution router t
  fresh : ∀ s, ∀ᶠ t in atTop, ∀ packet, (execution.label t).2 = .received packet →
    packet.isResponse = true → ∃ s', s ≤ s' ∧ s' < t ∧
      ∃ port ∈ links.ports (execution.actor t),
        Delivers links execution s' (execution.actor t) port packet

/-- Before its timeout has passed, a router has received a full advertisement that the
router at the other end of the link sent meanwhile. -/
def KeptAlive (increment limit : Router → UInt64) : Prop :=
  ∀ router, ∀ port ∈ links.ports router, ∀ a b,
    (limit router).toNat ≤
      (increment router).toNat * occurrences (Ticks execution router) a b →
    ∃ s, a ≤ s ∧ execution.actor s = (links.peer router port).1 ∧
      (execution.label s).2 = .advertise false ∧
      ∀ packet, Delivers links execution s router port packet →
        ∃ u, s < u ∧ u < b ∧ execution.actor u = router ∧
          (execution.label u).2 = .received packet

/-- Each end of a link is one of the interfaces of its router. -/
def Equipped (deamons : Router → RipDeamon Driver) : Prop :=
  ∀ router, ∀ port ∈ links.ports router,
    ∃ ifc ∈ (deamons router).interfaces, ifc.tx.ifIndex = port.ifIndex

/-- The entry tells the router, through the link, of a route that was stored at the
other end at time `s`. -/
structure Tells (key : RipRouteKey) (s : ℕ) (router : Router) (port : Port) (entry : RipEntry)
    (ifIndex : UInt32) : Prop where
  port_mem : port ∈ links.ports router
  valid : isEntryValid entry = true
  keyed : buildRouteKey entry = key
  nextHop : entry.nextHop = (links.peer router port).2.address
  ifIndex_eq : ifIndex = port.ifIndex
  stored : ∃ route, ((slotAt execution key s (links.peer router port).1).active = some route ∨
      (slotAt execution key s (links.peer router port).1).garbage = some route) ∧
    entry.metric.toNat = min (route.ripEntry.metric.toNat + 1) 16

end Definitions

variable {links : Links Router} {execution : Execution Router (@Step Driver _)}

theorem sentAt_eq {t : ℕ} {sent : List Transmission}
    (h : (execution.states (t + 1) (execution.actor t)).host.sent =
      (execution.states t (execution.actor t)).host.sent ++ sent) : sentAt execution t = sent := by
  rw [sentAt, h, List.drop_left]

theorem stored_of_sentAt
    (hwell : ∀ router key, WellFormed key (slotAt execution key 0 router)) {t : ℕ}
    {transmission : Transmission} (hsent : transmission ∈ sentAt execution t)
    {data : RipPacketData}
    (hdecode : RipPacketData.fromSlice transmission.payload = .ok (.ok data))
    (hresponse : data.isResponse = true) {raw : RipEntry} (hraw : raw ∈ data.entries) :
    ∃ route, ((slotAt execution (buildRouteKey raw) t (execution.actor t)).active = some route ∨
        (slotAt execution (buildRouteKey raw) t (execution.actor t)).garbage = some route) ∧
      route.ripEntry.metric = raw.metric := by
  have hwell_t := slotAt_wellFormed hwell t (execution.actor t)
  have hsteps := execution.acts t
  have hsentAt := @sentAt_eq _ _ _ execution t
  obtain ⟨deamon₀, ⟨database, hreordered, rfl⟩, hrun⟩ := hsteps
  obtain ⟨-, sent, hgrown, hpart⟩ := handle_sendsPart (execution.label t).2
    { execution.states t (execution.actor t) with
      database
      host := (execution.states t (execution.actor t)).host.renew (execution.label t).1 }
  rw [hrun] at hgrown
  rw [hsentAt hgrown] at hsent
  obtain ⟨route, hroute, rfl⟩ := stored_of_mem_datagrams (hpart.subset hsent) hdecode hresponse hraw
  refine ⟨route, ?_, rfl⟩
  have hslot := slot_reordered hreordered
  rcases mem_storedRoutes_iff.mp hroute with ⟨key, hactive⟩ | ⟨key, hgarbage⟩
  · have hold := congrArg Slot.active (hslot key)
    rw [slot_active, hactive] at hold
    obtain rfl := ((hwell_t key).active route hold.symm).keyed
    exact .inl hold.symm
  · have hold := congrArg Slot.garbage (hslot key)
    rw [slot_garbage, hgarbage] at hold
    obtain rfl := ((hwell_t key).garbage route hold.symm).keyed
    exact .inr hold.symm

theorem tells_of_heardAt
    (hwell : ∀ router key, WellFormed key (slotAt execution key 0 router)) {key : RipRouteKey}
    {s t : ℕ}
    (hfresh : ∀ packet, (execution.label t).2 = .received packet → packet.isResponse = true →
      ∃ s', s ≤ s' ∧ s' < t ∧ ∃ port ∈ links.ports (execution.actor t),
        Delivers links execution s' (execution.actor t) port packet)
    {router : Router} {heard : RipEntry × RipIfInfo}
    (hheard : HeardAt execution key router t heard) :
    ∃ s', s ≤ s' ∧ ∃ port, Tells links execution key s' router port heard.1 heard.2.ifIndex := by
  obtain ⟨rfl, hmem⟩ := hheard
  cases hevent : (execution.label t).2 with
  | received packet =>
      rw [hevent, DeamonEvent.heard] at hmem
      split_ifs at hmem with haccepted
      · obtain ⟨raw, hraw, hentry, hkey, hifInfo⟩ := mem_routeEntries_iff.mp hmem
        have hresponse : packet.isResponse = true := by
          rw [accepted, Bool.and_eq_true, Bool.and_eq_true] at haccepted
          exact haccepted.1.1
        obtain ⟨s', hle, -, port, hport, hactor, transmission, hsent, -, hdelivered⟩ :=
          hfresh packet hevent hresponse
        rw [delivered] at hdelivered
        split at hdelivered
        · rename_i data hdecode
          obtain rfl := Option.some.inj hdelivered
          obtain ⟨route, hstored, hmetric⟩ :=
            stored_of_sentAt hwell hsent hdecode hresponse hraw
          obtain ⟨-, -, hnext⟩ := responseEntryToRoute_metric hentry
          have hvalid := responseEntryToRoute_valid hentry
          obtain ⟨-, hderived⟩ := responseEntryToRoute_eq hentry
          rw [hactor] at hstored
          have hraw' : buildRouteKey raw = key := by
            rw [← hkey, hderived]
            rfl
          rw [hraw'] at hstored
          refine ⟨s', hle, port, hport, hvalid, hkey, ?_, ?_, route, hstored, ?_⟩
          · rw [hderived]
          · rw [← hifInfo]
          · rw [hnext, hmetric]
        · simp at hdelivered
      · simp at hmem
  | _ => simp [hevent, DeamonEvent.heard] at hmem

/-- In the end what routers hear was sent when `P` held. -/
theorem eventually_tells (hfair : Fair links execution)
    (hwell : ∀ router key, WellFormed key (slotAt execution key 0 router)) {P : ℕ → Prop}
    (hP : ∀ᶠ s in atTop, P s) (key : RipRouteKey) :
    ∀ᶠ t in atTop, ∀ router heard, HeardAt execution key router t heard →
      ∃ s port, P s ∧ Tells links execution key s router port heard.1 heard.2.ifIndex := by
  obtain ⟨s, hs⟩ := eventually_atTop.mp hP
  filter_upwards [hfair.fresh s] with t hfresh router heard hheard
  obtain ⟨s', hle, port, htells⟩ := tells_of_heardAt hwell hfresh hheard
  exact ⟨s', port, hs s' hle, htells⟩

theorem eventually_learned [Finite Router] (hfair : Fair links execution)
    {increment limit : Router → UInt64} (hconfigured : Configured execution increment limit)
    (hwell : ∀ router key, WellFormed key (slotAt execution key 0 router)) {key : RipRouteKey}
    (hadds : ∀ t, ¬AddsRoute key (execution.label t)) {P : ℕ → Prop} (hP : ∀ᶠ s in atTop, P s) :
    ∀ᶠ t in atTop, ∀ router route, (slotAt execution key t router).active = some route →
      route.isLocal = false →
      ∃ s port, P s ∧ Tells links execution key s router port route.ripEntry route.ifIndex := by
  obtain ⟨a, ha⟩ := eventually_atTop.mp (eventually_tells hfair hwell hP key)
  refine eventually_all.mpr fun router => ?_
  filter_upwards [eventually_heardLast hconfigured hwell hadds (hfair.ticks router) a]
    with t hlast route hactive hremote
  obtain ⟨h, hah, -, ⟨heard, hheard, hentry, hindex⟩, -⟩ := hlast route hactive hremote
  obtain ⟨s, port, hs, htells⟩ := ha h hah router heard hheard
  rw [hentry, hindex] at htells
  exact ⟨s, port, hs, htells⟩

theorem equipped_states (hequipped : Equipped links (execution.states 0)) (t : ℕ) :
    Equipped links (execution.states t) := by
  intro router port hport
  have hinterfaces : (execution.states t router).interfaces =
      (execution.states 0 router).interfaces := by
    refine execution.keeps
      (I := fun deamon => deamon.interfaces = (execution.states 0 router).interfaces) rfl
      (fun t _ hacts hsame => ?_) (Nat.zero_le t)
    subst hacts
    obtain ⟨deamon₀, ⟨database, -, rfl⟩, hrun⟩ := execution.acts t
    have hpart := (handle_sendsPart (execution.label t).2
      { execution.states t (execution.actor t) with
        database
        host := (execution.states t (execution.actor t)).host.renew (execution.label t).1 }).1
    rw [hrun] at hpart
    exact hpart.trans hsame
  rw [hinterfaces]
  exact hequipped router port hport

theorem sentAt_advertise {s : ℕ} (hevent : (execution.label s).2 = .advertise false) :
    ∃ database, (execution.states s (execution.actor s)).database.Reordered database ∧
      sentAt execution s = advertisement (execution.label s).1.endian database
        (execution.states s (execution.actor s)).interfaces false := by
  have hsteps := execution.acts s
  have hlabel : execution.label s = ((execution.label s).1, .advertise false) := by
    rw [← hevent]
  rw [hlabel] at hsteps
  obtain ⟨deamon₀, ⟨database, hreordered, rfl⟩, hrun⟩ := hsteps
  obtain ⟨host, hfinal, hall⟩ := sendMulticastAdvertisement_ok hrun
  refine ⟨database, hreordered, sentAt_eq ?_⟩
  rw [hfinal]
  exact hall

theorem delivered_response (endian : Endian) (sender receiver : Port) (socket : RipSocket)
    (entries : List RipEntry) :
    delivered sender receiver (socket.multicast (buildResponseBuffer endian entries)) = some {
      data := responseData entries
      ifInfo := { ifName := receiver.ifName, ifIndex := receiver.ifIndex }
      source := { ip := sender.address, port := ripUdpPort } } := by
  simp only [delivered, RipSocket.multicast, fromSlice_buildResponseBuffer]
  rfl

theorem advertise_delivers (hequipped : Equipped links (execution.states 0)) {key : RipRouteKey}
    {s : ℕ} {router : Router} {port : Port} (hport : port ∈ links.ports router)
    (hactor : execution.actor s = (links.peer router port).1)
    (hevent : (execution.label s).2 = .advertise false) {route : RipDbEntry}
    (hactive : (slotAt execution key s (links.peer router port).1).active = some route)
    (hother : route.ifIndex ≠ (links.peer router port).2.ifIndex) :
    ∃ packet, Delivers links execution s router port packet ∧ accepted packet = true ∧
      packet.source.ip = (links.peer router port).2.address ∧
      route.advertised ∈ packet.data.entries := by
  rw [← hactor] at hactive
  obtain ⟨ifc, hifc, hindex⟩ :=
    equipped_states hequipped s _ _ (links.peer_mem router port hport)
  rw [← hactor] at hifc
  obtain ⟨database, hreordered, hsentAt⟩ := sentAt_advertise hevent
  have hstored : route ∈ database.allRoutes := by
    rw [← Multiset.mem_coe, ← storedRoutes_eq, storedRoutes_reordered hreordered]
    exact mem_storedRoutes_iff.mpr (.inl ⟨key, hactive⟩)
  have hentry : route.advertised ∈ database.getRoutesForAdvertisement ifc.tx.ifIndex false :=
    RipDatabase.mem_getRoutesForAdvertisement_iff.mpr
      ⟨route, hstored, by simp, by rwa [hindex], rfl⟩
  obtain ⟨entries, hmem, htransmission⟩ :=
    exists_transmission_of_mem (execution.label s).1.endian hifc hentry
  rw [← hsentAt] at htransmission
  exact ⟨_, ⟨hactor, _, htransmission, hindex, delivered_response _ _ _ _ _⟩, rfl, rfl, hmem⟩

theorem KeptAlive.heard {increment limit : Router → UInt64}
    (hkept : KeptAlive links execution increment limit)
    (hequipped : Equipped links (execution.states 0)) {key : RipRouteKey} {router : Router}
    {port : Port} (hport : port ∈ links.ports router) {a b metric : ℕ} (hmetric : metric ≤ 15)
    (hroute : ∀ s, a ≤ s → ∃ route,
      (slotAt execution key s (links.peer router port).1).active = some route ∧
      isEntryValid route.ripEntry = true ∧ buildRouteKey route.ripEntry = key ∧
      route.ripEntry.metric.toNat = metric ∧ route.ifIndex ≠ (links.peer router port).2.ifIndex)
    (hwindow : (limit router).toNat ≤
      (increment router).toNat * occurrences (Ticks execution router) a b) :
    ∃ u, a < u ∧ u < b ∧ ¬Ticks execution router u ∧
      ∃ heard, HeardAt execution key router u heard ∧
        heard.1.nextHop = (links.peer router port).2.address ∧
        heard.1.metric.toNat = metric + 1 := by
  obtain ⟨s, hle, hactor, hadvertise, hreceived⟩ := hkept router port hport a b hwindow
  obtain ⟨route, hactive, hvalid, hkeyed, rfl, hother⟩ := hroute s hle
  obtain ⟨packet, hdelivers, haccepted, hsource, hentry⟩ :=
    advertise_delivers hequipped hport hactor hadvertise hactive hother
  obtain ⟨u, hsu, hub, hacts, hevent⟩ := hreceived packet hdelivers
  obtain ⟨entry, hderived⟩ :
      ∃ entry, responseEntryToRoute route.advertised packet = some entry := by
    have hvalid' : isEntryValid route.advertised = true := hvalid
    rw [responseEntryToRoute, hvalid']
    exact ⟨_, rfl⟩
  obtain ⟨-, -, hnext⟩ := responseEntryToRoute_metric hderived
  obtain ⟨-, hentryEq⟩ := responseEntryToRoute_eq hderived
  refine ⟨u, by omega, hub, fun hticks => ?_, (entry, packet.ifInfo), ⟨hacts, ?_⟩, ?_, ?_⟩
  · have htick := hticks.2
    simp [hevent, TimeoutCounters.isTimeoutTick] at htick
  · rw [hevent, DeamonEvent.heard, if_pos haccepted]
    refine mem_routeEntries_iff.mpr ⟨_, hentry, hderived, ?_, rfl⟩
    rw [hentryEq]
    exact hkeyed
  · rw [hentryEq]
    exact hsource
  · rw [hnext]
    change min (route.ripEntry.metric.toNat + 1) 16 = _
    omega

end RipV2.LinkDeliveries
