import RipV2.HeardEntries
import RipV2.HopDistance
import RipV2.KernelRoutes
import RipV2.PointToPoint

/-!
One destination that some routers have as a local route spreads by one hop a
round, along shortest paths and up to the infinity metric.
-/

namespace RipV2.SynchronousRounds

open RipV2.AdvertisedBuffers
open RipV2.Database
open RipV2.Deamon
open RipV2.Deamon.RipDeamon
open RipV2.DeamonRuns
open RipV2.DeamonSimulation
open RipV2.DestinationSlots
open RipV2.EffectLogic
open RipV2.HeardEntries
open RipV2.HopDistance
open RipV2.HostEnvironment
open RipV2.KernelRoutes
open RipV2.LocalRoutes
open RipV2.Packets
open RipV2.PointToPoint
open RipV2.ReachableRoutes
open RipV2.RoutingTables
open RipV2.SentDatagrams
open RipV2.TransitionRuns

variable {Router : Type}

section Slots

variable (links : Links Router) (origins : Set Router) (key : RipRouteKey)

/-- A route to the destination at distance `d`: a local one, or one through a
neighbour that is closer to an origin. -/
structure Shortest (router : Router) (d : ℕ) (route : RipDbEntry) : Prop where
  keyed : buildRouteKey route.ripEntry = key
  valid : isEntryValid route.ripEntry = true
  metric : route.ripEntry.metric.toNat = d + 1
  via : (d = 0 ∧ route.ripEntry.nextHop = 0 ∧
      ∀ port ∈ links.ports router, route.ifIndex ≠ port.ifIndex) ∨
    ∃ port ∈ links.ports router, hops links.graph origins (links.peer router port).1 + 1 = d ∧
      route.ripEntry.nextHop = (links.peer router port).2.address ∧
      route.ifIndex = port.ifIndex

/-- An entry that comes from a neighbour with a shortest route of at most `k` hops. -/
def Offered (k : ℕ) (router : Router) (entry : RipEntry) (ifInfo : RipIfInfo) : Prop :=
  ∃ port ∈ links.ports router, ∃ e : ℕ,
    hops links.graph origins (links.peer router port).1 = e ∧ e ≤ k ∧ e ≤ 14 ∧
    buildRouteKey entry = key ∧ isEntryValid entry = true ∧ entry.metric.toNat = e + 2 ∧
    entry.nextHop = (links.peer router port).2.address ∧ ifInfo.ifIndex = port.ifIndex

/-- After `k` rounds: the routers up to distance `k` have a shortest route. -/
structure Settled (k : ℕ) (router : Router) (s : Slot) : Prop where
  near : ∀ d : ℕ, hops links.graph origins router = d → d ≤ k → d ≤ 14 →
    ∃ route, s.active = some route ∧ Shortest links origins key router d route
  far : (∀ d : ℕ, hops links.graph origins router = d → d ≤ k → 14 < d) → s.active = none
  garbage : s.garbage = none

end Slots

variable {links : Links Router} {origins : Set Router} {key : RipRouteKey} {k : ℕ}
  {router : Router}

theorem Shortest.sameRoute {d : ℕ} {old route : RipDbEntry}
    (h : Shortest links origins key router d old) (hsame : SameRoute old route) :
    Shortest links origins key router d route := by
  obtain ⟨hkeyed, hvalid, hmetric, hvia⟩ := h
  refine ⟨?_, ?_, ?_, ?_⟩
  · rwa [hsame.ripEntry]
  · rwa [hsame.ripEntry]
  · rwa [hsame.ripEntry]
  · rwa [hsame.ripEntry, hsame.ifIndex]

theorem distance_le_of_port {port : Port} (hport : port ∈ links.ports router) {d e : ℕ}
    (hd : hops links.graph origins router = d)
    (he : hops links.graph origins (links.peer router port).1 = e) : d ≤ e + 1 := by
  have hle := hops_le_add_one origins (links.adj_peer hport)
  rw [hd, he] at hle
  exact_mod_cast hle

theorem Shortest.distance_of_nextHop {d e : ℕ} {route : RipDbEntry}
    (h : Shortest links origins key router d route) {port : Port}
    (hport : port ∈ links.ports router)
    (he : hops links.graph origins (links.peer router port).1 = e)
    (hhop : route.ripEntry.nextHop = (links.peer router port).2.address) : e + 1 = d := by
  have hpeer := links.peer_mem router port hport
  rcases h.via with ⟨-, hzero, -⟩ | ⟨port', hport', hcloser, hhop', -⟩
  · exact absurd (hhop.symm.trans hzero) (links.address_ne_zero _ _ hpeer)
  · have hsame := (links.address_inj _ _ _ (links.peer_mem router port' hport') _ hpeer
      (hhop'.symm.trans hhop)).1
    rw [hsame, he] at hcloser
    exact_mod_cast hcloser

theorem learnedRoute_shortest {d e : ℕ} {entry : RipEntry} {ifInfo : RipIfInfo} {port : Port}
    (hport : port ∈ links.ports router)
    (he : hops links.graph origins (links.peer router port).1 = e) (hd : e + 1 = d)
    (hkey : buildRouteKey entry = key) (hvalid : isEntryValid entry = true)
    (hmetric : entry.metric.toNat = e + 2)
    (hhop : entry.nextHop = (links.peer router port).2.address)
    (hindex : ifInfo.ifIndex = port.ifIndex) :
    Shortest links origins key router d (learnedRoute entry ifInfo) := by
  refine ⟨hkey, hvalid, ?_, .inr ⟨port, hport, ?_, hhop, hindex⟩⟩
  · change entry.metric.toNat = d + 1
    omega
  · rw [he, ← hd, Nat.cast_add, Nat.cast_one]

theorem hear_shortest {d : ℕ} (hd : hops links.graph origins router = d) (hfinite : d ≤ 14)
    {s : Slot} {old : RipDbEntry} (hactive : s.active = some old)
    (hold : Shortest links origins key router d old) {entry : RipEntry} {ifInfo : RipIfInfo}
    (hoffered : Offered links origins key k router entry ifInfo) (now : Instant) :
    (∃ route, (s.hear now entry ifInfo).active = some route ∧
      Shortest links origins key router d route) ∧
    (s.hear now entry ifInfo).garbage = s.garbage := by
  obtain ⟨port, hport, e, he, -, -, hkey, hvalid, hmetric, hhop, hindex⟩ := hoffered
  have hnear := distance_le_of_port hport hd he
  -- an entry from the current next hop comes from distance `d - 1`
  have hcurrent : routeIsFromCurrentNextHop old entry = true → e + 1 = d := by
    intro hsame
    exact hold.distance_of_nextHop hport he ((beq_iff_eq.mp hsame).trans hhop)
  rw [Slot.hear]
  cases hverdict : verdict s.active entry ifInfo with
  | ignore => exact ⟨⟨old, hactive, hold⟩, rfl⟩
  | refresh oldRoute =>
      obtain ⟨hroute, -, -⟩ := verdict_refresh hverdict
      obtain rfl : old = oldRoute := Option.some.inj (hactive.symm.trans hroute)
      exact ⟨⟨_, rfl, hold.sameRoute (sameRoute_refreshed old)⟩, rfl⟩
  | learn =>
      obtain ⟨hnone, -⟩ := verdict_learn hverdict
      exact absurd (hactive.symm.trans hnone) (by simp)
  | update oldRoute =>
      obtain ⟨hroute, -, hsame⟩ := verdict_update hverdict
      obtain rfl : old = oldRoute := Option.some.inj (hactive.symm.trans hroute)
      exact ⟨⟨_, rfl, learnedRoute_shortest hport he (hcurrent hsame) hkey hvalid hmetric hhop
        hindex⟩, rfl⟩
  | switch oldRoute =>
      obtain ⟨hroute, -, hbetter, -⟩ := verdict_switch hverdict
      obtain rfl : old = oldRoute := Option.some.inj (hactive.symm.trans hroute)
      have hlt := UInt32.lt_iff_toNat_lt.mp hbetter
      rw [hmetric, hold.metric] at hlt
      omega
  | poison oldRoute =>
      obtain ⟨hroute, hinfinite, hsame⟩ := verdict_poison hverdict
      obtain rfl : old = oldRoute := Option.some.inj (hactive.symm.trans hroute)
      have hle : 16 ≤ entry.metric.toNat := UInt32.le_iff_toNat_le.mp hinfinite
      have hcloser := hcurrent hsame
      omega

theorem hear_none {s : Slot} (hnone : s.active = none) (now : Instant) (entry : RipEntry)
    (ifInfo : RipIfInfo) :
    s.hear now entry ifInfo =
      if 16 ≤ entry.metric.toNat then s else ⟨some (learnedRoute entry ifInfo), none⟩ := by
  have hiff : entry.metric ≥ ripInfinityMetric ↔ 16 ≤ entry.metric.toNat :=
    UInt32.le_iff_toNat_le
  rw [Slot.hear, hnone, verdict]
  split_ifs with h h' h'
  · rfl
  · exact absurd (hiff.mp h) h'
  · exact absurd (hiff.mpr h') h
  · rfl

theorem settled_of_shortest {d : ℕ} (hd : hops links.graph origins router = d) (hround : d ≤ k)
    (hfinite : d ≤ 14) {s : Slot}
    (hactive : ∃ route, s.active = some route ∧ Shortest links origins key router d route)
    (hgarbage : s.garbage = none) : Settled links origins key k router s := by
  constructor
  · intro d' hd' _ _
    obtain rfl : d' = d := by exact_mod_cast hd'.symm.trans hd
    exact hactive
  · intro hfar
    have hbeyond := hfar d hd hround
    omega
  · exact hgarbage

theorem settled_of_none {s : Slot}
    (hfar : ∀ d : ℕ, hops links.graph origins router = d → d ≤ k → 14 < d)
    (hnone : s.active = none) (hgarbage : s.garbage = none) :
    Settled links origins key k router s := by
  refine ⟨fun d hd hround hfinite => ?_, fun _ => hnone, hgarbage⟩
  have hbeyond := hfar d hd hround
  omega

/-- The state of a destination while the packets of a round are handled. -/
def Settling (links : Links Router) (origins : Set Router) (key : RipRouteKey) (k : ℕ)
    (router : Router) (s : Slot) : Prop :=
  Settled links origins key k router s ∨ Settled links origins key (k + 1) router s

theorem Settling.garbage {s : Slot} (h : Settling links origins key k router s) :
    s.garbage = none :=
  h.elim Settled.garbage Settled.garbage

theorem Settling.active_of_le {s : Slot} (h : Settling links origins key k router s) {d : ℕ}
    (hd : hops links.graph origins router = d) (hround : d ≤ k + 1) (hfinite : d ≤ 14) :
    (∃ old, s.active = some old ∧ Shortest links origins key router d old) ∨
      (d = k + 1 ∧ s.active = none) := by
  rcases h with hsettled | hsettled
  · by_cases hbefore : d ≤ k
    · exact .inl (hsettled.near d hd hbefore hfinite)
    · refine .inr ⟨by omega, hsettled.far fun d' hd' hle => ?_⟩
      obtain rfl : d' = d := by exact_mod_cast hd'.symm.trans hd
      omega
  · exact .inl (hsettled.near d hd hround hfinite)

theorem Settling.hear {s : Slot} (h : Settling links origins key k router s) {entry : RipEntry}
    {ifInfo : RipIfInfo} (hoffered : Offered links origins key k router entry ifInfo)
    (now : Instant) :
    Settled links origins key (k + 1) router (s.hear now entry ifInfo) := by
  obtain ⟨port, hport, e, he, hround, hlimit, hkey, hvalid, hmetric, hhop, hindex⟩ := id hoffered
  have hle := hops_le_add_one origins (links.adj_peer hport)
  rw [he] at hle
  obtain ⟨d, hd⟩ := ENat.ne_top_iff_exists.mp (ne_top_of_le_ne_top (by simp) hle)
  replace hd := hd.symm
  have hnear := distance_le_of_port hport hd he
  by_cases hfinite : d ≤ 14
  · rcases h.active_of_le hd (by omega) hfinite with ⟨old, hactive, hold⟩ | ⟨hreached, hnone⟩
    · obtain ⟨hroute, hgarbage⟩ := hear_shortest hd hfinite hactive hold hoffered now
      exact settled_of_shortest hd (by omega) hfinite hroute (hgarbage.trans h.garbage)
    · rw [hear_none hnone, if_neg (by omega)]
      refine settled_of_shortest hd (by omega) hfinite ⟨_, rfl, ?_⟩ rfl
      exact learnedRoute_shortest hport he (by omega) hkey hvalid hmetric hhop hindex
  · have hfar : ∀ d' : ℕ, hops links.graph origins router = d' → d' ≤ k + 1 → 14 < d' := by
      intro d' hd' _
      obtain rfl : d' = d := by exact_mod_cast hd'.symm.trans hd
      omega
    have hnone : s.active = none := by
      rcases h with hsettled | hsettled
      · exact hsettled.far fun d' hd' hle => hfar d' hd' (by omega)
      · exact hsettled.far hfar
    rw [hear_none hnone, if_pos (by omega)]
    exact settled_of_none hfar hnone h.garbage

theorem Settling.hears {s t : Slot} {entries : List (RipEntry × RipIfInfo)}
    (h : Settling links origins key k router s)
    (hoffered : ∀ heard ∈ entries, Offered links origins key k router heard.1 heard.2)
    (hhears : Hears s entries t) :
    Settling links origins key k router t ∧
      (Settled links origins key (k + 1) router s ∨ entries ≠ [] →
        Settled links origins key (k + 1) router t) := by
  induction hhears with
  | nil s => exact ⟨h, fun hsettled => hsettled.resolve_right (by simp)⟩
  | @cons s t entry ifInfo entries now hrest ih =>
      have hfirst := h.hear (hoffered (entry, ifInfo) (by simp)) now
      obtain ⟨hsettling, hsettled⟩ :=
        ih (.inr hfirst) fun heard hmem => hoffered heard (by simp [hmem])
      exact ⟨hsettling, fun _ => hsettled (.inl hfirst)⟩

theorem Settling.conflicts {s : Slot} {entries : List (RipEntry × RipIfInfo)}
    (h : Settling links origins key k router s)
    (hoffered : ∀ heard ∈ entries, Offered links origins key k router heard.1 heard.2) :
    conflicts entries s = false := by
  apply conflicts_of_kept h
  rintro heard hmem s h
  exact ⟨Slot.conflict_eq_false fun _ _ => h.garbage, .inr (h.hear (hoffered heard hmem) 0)⟩

variable {Driver : Type} [RoutingTableDriver Driver]

/-- A response from a neighbour that has nothing but a shortest route to tell. -/
structure Told (links : Links Router) (origins : Set Router) (key : RipRouteKey) (k : ℕ)
    (router : Router) (packet : RipPacket) : Prop where
  accepted : accepted packet = true
  other : ∀ key', key' ≠ key → (DeamonEvent.received packet).heard key' = []
  offered : ∀ heard ∈ (DeamonEvent.received packet).heard key,
    Offered links origins key k router heard.1 heard.2

/-- The tables of a daemon that knows of one destination at most. -/
structure Knows (P : Slot → Prop) (key : RipRouteKey) (deamon : RipDeamon Driver) : Prop where
  keys : KeysMatch deamon.database
  other : ∀ key', key' ≠ key → slot deamon.database key' = ⟨none, none⟩
  destination : P (slot deamon.database key)

omit [RoutingTableDriver Driver] in
theorem Knows.resumes {P : Slot → Prop} {deamon deamon₀ : RipDeamon Driver} {answers : Answers}
    (h : Knows P key deamon) (hresumes : Resumes answers deamon deamon₀) :
    Knows P key deamon₀ := by
  obtain ⟨database, hreordered, rfl⟩ := hresumes
  have hslot := slot_reordered hreordered
  refine ⟨h.keys.reordered hreordered, fun key' hkey' => ?_, ?_⟩
  · rw [hslot key']
    exact h.other key' hkey'
  · rw [hslot key]
    exact h.destination

theorem handlePacket_knows (hdriver : NeverFails Driver) {packet : RipPacket}
    (htold : Told links origins key k router packet) {deamon : RipDeamon Driver}
    (h : Knows (Settling links origins key k router) key deamon) :
    let deamon' := finalState ((handlePacket packet).run deamon)
    Knows (Settling links origins key k router) key deamon' ∧
      (Settled links origins key (k + 1) router (slot deamon.database key) ∨
          (DeamonEvent.received packet).heard key ≠ [] →
        Settled links origins key (k + 1) router (slot deamon'.database key)) := by
  intro deamon'
  obtain ⟨hheard, hsucceeds⟩ := handlePacket_hears htold.accepted h.keys
  have hok : succeeded ((handlePacket packet).run deamon) = true := by
    refine (hsucceeds hdriver).mpr fun key' => ?_
    by_cases hkey' : key' = key
    · rw [hkey']
      exact h.destination.conflicts htold.offered
    · rw [htold.other key' hkey']
      rfl
  obtain ⟨hsettling, hsettled⟩ := h.destination.hears htold.offered (hheard hok key)
  refine ⟨⟨?_, fun key' hkey' => ?_, hsettling⟩, hsettled⟩
  · exact (handlePacket_simulated h.keys).keysMatch h.keys
  · have hother := hheard hok key'
    rw [htold.other key' hkey', h.other key' hkey'] at hother
    exact hother.of_nil

theorem packets_known (hdriver : NeverFails Driver) {deamon deamon' : RipDeamon Driver}
    {labels : List (Answers × DeamonEvent)} (hrun : Run Attempted deamon labels deamon')
    (htold : ∀ label ∈ labels, ∃ packet, label.2 = .received packet ∧
      Told links origins key k router packet)
    (h : Knows (Settling links origins key k router) key deamon) :
    Knows (Settling links origins key k router) key deamon' ∧
      ((∃ label ∈ labels, label.2.heard key ≠ []) →
        Settled links origins key (k + 1) router (slot deamon'.database key)) := by
  -- the packets in the order in which they are handled
  induction hrun with
  | nil => exact ⟨h, fun hsome => by simp at hsome⟩
  | @snoc labels deamon₁ deamon₂ label hrest hstep ih =>
      obtain ⟨hknows, hsettled⟩ := ih fun label' hmem => htold label' (by simp [hmem])
      obtain ⟨packet, hevent, hpacket⟩ := htold label (by simp)
      obtain ⟨res, ⟨deamon₀, hresumes, rfl⟩, rfl⟩ := hstep
      obtain ⟨hlast, hlastSettled⟩ :=
        handlePacket_knows hdriver hpacket (hknows.resumes hresumes)
      rw [hevent]
      refine ⟨hlast, ?_⟩
      rintro ⟨label', hmem, hne⟩
      apply hlastSettled
      rcases List.mem_append.mp hmem with hbefore | hnow
      · obtain ⟨database, hreordered, rfl⟩ := hresumes
        refine .inl ?_
        rw [slot_reordered hreordered key]
        exact hsettled ⟨label', hbefore, hne⟩
      · obtain rfl := List.mem_singleton.mp hnow
        rw [hevent] at hne
        exact .inr hne

/-- The daemons after `k` rounds. -/
structure Converged (links : Links Router) (origins : Set Router) (key : RipRouteKey) (k : ℕ)
    (deamons : Router → RipDeamon Driver) : Prop where
  equipped : ∀ router, ∀ port ∈ links.ports router,
    ∃ ifc ∈ (deamons router).interfaces, ifc.tx.ifIndex = port.ifIndex
  knows : ∀ router, Knows (Settled links origins key k router) key (deamons router)

omit [RoutingTableDriver Driver] in
theorem Converged.stored {deamons : Router → RipDeamon Driver}
    (h : Converged links origins key k deamons) {route : RipDbEntry}
    (hroute : route ∈ storedRoutes (deamons router).database) :
    ∃ e : ℕ, hops links.graph origins router = e ∧ e ≤ k ∧ e ≤ 14 ∧
      Shortest links origins key router e route := by
  obtain ⟨-, hother, hsettled⟩ := h.knows router
  rcases mem_storedRoutes_iff.mp hroute with ⟨key', hactive⟩ | ⟨key', hgarbage⟩
  · obtain rfl : key' = key := by
      by_contra hkey'
      have hnone := congrArg Slot.active (hother key' hkey')
      rw [slot_active, hactive] at hnone
      simp at hnone
    by_cases hfar : ∀ d : ℕ, hops links.graph origins router = d → d ≤ k → 14 < d
    · have hnone := hsettled.far hfar
      rw [slot_active, hactive] at hnone
      simp at hnone
    · simp only [not_forall, Nat.not_lt] at hfar
      obtain ⟨e, he, hround, hfinite⟩ := hfar
      obtain ⟨route', hactive', hshortest⟩ := hsettled.near e he hround hfinite
      obtain rfl : route = route' := Option.some.inj (hactive.symm.trans hactive')
      exact ⟨e, he, hround, hfinite, hshortest⟩
  · have hnone : (slot (deamons router).database key').garbage = none := by
      by_cases hkey' : key' = key
      · rw [hkey']
        exact hsettled.garbage
      · rw [hother key' hkey']
    rw [slot_garbage, hgarbage] at hnone
    simp at hnone

theorem Converged.told {deamons advertised : Router → RipDeamon Driver}
    (h : Converged links origins key k deamons) {sent : Router → List Transmission}
    (hadvertised : ∀ router, ∃ answers,
      Step (deamons router) (answers, .advertise false) (advertised router))
    (hsent : ∀ router, (advertised router).host.sent = (deamons router).host.sent ++ sent router)
    {packet : RipPacket} (hpacket : packet ∈ arrivals links sent router) :
    Told links origins key k router packet := by
  obtain ⟨port, hport, haccepted, hifInfo, hsource, hentries⟩ :=
    arrival_stored hadvertised hsent hpacket
  have hoffered : ∀ key' entry ifInfo,
      (entry, ifInfo) ∈ (DeamonEvent.received packet).heard key' →
      key' = key ∧ Offered links origins key k router entry ifInfo := by
    intro key' entry ifInfo hmem
    rw [DeamonEvent.heard, if_pos haccepted] at hmem
    obtain ⟨raw, hraw, hentry, hkey', hinfo⟩ := mem_routeEntries_iff.mp hmem
    obtain ⟨route, hroute, -, rfl⟩ := hentries raw hraw
    obtain ⟨e, he, hround, hfinite, hshortest⟩ := h.stored hroute
    have hvalid := responseEntryToRoute_valid hentry
    obtain ⟨-, -, hnext⟩ := responseEntryToRoute_metric hentry
    obtain ⟨-, rfl⟩ := responseEntryToRoute_eq hentry
    have hmetric : (RipDbEntry.advertised route).metric.toNat = e + 1 := hshortest.metric
    have hkeyed : buildRouteKey route.ripEntry = key := hshortest.keyed
    refine ⟨hkey'.symm.trans hkeyed, port, hport, e, he, hround, hfinite, hkeyed, hvalid, ?_,
      hsource, ?_⟩
    · rw [hnext]
      omega
    · rw [← hinfo, hifInfo]
  refine ⟨haccepted, fun key' hne => ?_, fun heard hmem => (hoffered key heard.1 heard.2 hmem).2⟩
  rw [List.eq_nil_iff_forall_not_mem]
  rintro ⟨entry, ifInfo⟩ hmem
  exact hne (hoffered key' entry ifInfo hmem).1

/-- A router at the distance of the round is told of the destination: split
horizon hides the route of a closer neighbour only from those still closer. -/
theorem Converged.reached {deamons advertised : Router → RipDeamon Driver}
    (h : Converged links origins key k deamons) {sent : Router → List Transmission}
    (hadvertised : ∀ router, ∃ answers,
      Step (deamons router) (answers, .advertise false) (advertised router))
    (hsent : ∀ router, (advertised router).host.sent = (deamons router).host.sent ++ sent router)
    (hrouter : hops links.graph origins router = (k + 1 : ℕ)) (hfinite : k + 1 ≤ 14) :
    ∃ packet ∈ arrivals links sent router, (DeamonEvent.received packet).heard key ≠ [] := by
  obtain ⟨neighbour, hadj, hcloser⟩ := exists_adj_hops hrouter
  obtain ⟨port, hport, hpeer⟩ := links.exists_port hadj
  subst hpeer
  obtain ⟨route, hactive, hshortest⟩ :=
    (h.knows (links.peer router port).1).destination.near k hcloser le_rfl (by omega)
  have hmem := links.peer_mem router port hport
  obtain ⟨ifc, hifc, hindex⟩ := h.equipped _ _ hmem
  have hother : route.ifIndex ≠ (links.peer router port).2.ifIndex := by
    rcases hshortest.via with ⟨-, -, hlocal⟩ | ⟨port', hport', hstill, -, hindex'⟩
    · exact hlocal _ hmem
    · rw [hindex']
      intro hsame
      obtain rfl := links.ifIndex_inj _ _ hport' _ hmem hsame
      rw [links.peer_peer router port hport, hrouter] at hstill
      norm_cast at hstill
      omega
  obtain ⟨packet, hpacket, haccepted, hentry⟩ := stored_arrives hadvertised hsent hport hifc hindex
    (mem_storedRoutes_iff.mpr (.inl ⟨key, hactive⟩)) hother
  refine ⟨packet, hpacket, ?_⟩
  obtain ⟨entry, hderived, hkey⟩ : ∃ entry,
      responseEntryToRoute route.advertised packet = some entry ∧ buildRouteKey entry = key := by
    have hvalid : isEntryValid route.advertised = true := hshortest.valid
    rw [responseEntryToRoute, hvalid]
    exact ⟨_, rfl, hshortest.keyed⟩
  rw [DeamonEvent.heard, if_pos haccepted]
  exact List.ne_nil_of_mem (mem_routeEntries_iff.mpr ⟨_, hentry, hderived, hkey, rfl⟩)

theorem Settled.unflag {s : Slot} (h : Settled links origins key k router s) :
    Settled links origins key k router s.unflag := by
  constructor
  · intro d hd hround hfinite
    obtain ⟨route, hactive, hshortest⟩ := h.near d hd hround hfinite
    refine ⟨route.unchanged, ?_, hshortest.sameRoute (sameRoute_unchanged route)⟩
    rw [Slot.unflag, hactive]
    rfl
  · intro hfar
    rw [Slot.unflag, h.far hfar]
    rfl
  · rw [Slot.unflag, h.garbage]
    rfl

theorem Settled.succ {s : Slot} (h : Settled links origins key k router s)
    (hunreached : hops links.graph origins router = (k + 1 : ℕ) → 14 < k + 1) :
    Settled links origins key (k + 1) router s := by
  have hbefore : ∀ d : ℕ, hops links.graph origins router = d → d ≤ k + 1 → d ≤ 14 → d ≤ k := by
    intro d hd hround hfinite
    by_contra hlast
    obtain rfl : d = k + 1 := by omega
    have hbeyond := hunreached hd
    omega
  refine ⟨fun d hd hround hfinite => h.near d hd (hbefore d hd hround hfinite) hfinite,
    fun hfar => h.far fun d hd hround => hfar d hd (by omega), h.garbage⟩

omit [RoutingTableDriver Driver] in
theorem Knows.mono {P Q : Slot → Prop} {deamon : RipDeamon Driver} (h : Knows P key deamon)
    (hPQ : P (slot deamon.database key) → Q (slot deamon.database key)) : Knows Q key deamon :=
  ⟨h.keys, h.other, hPQ h.destination⟩

theorem Knows.advertised {deamon deamon' : RipDeamon Driver} {answers : Answers}
    (h : Knows (Settled links origins key k router) key deamon)
    (hstep : Step deamon (answers, .advertise false) deamon') :
    Knows (Settled links origins key k router) key deamon' := by
  have hkeys := (outcome_simulated hstep h.keys).keysMatch h.keys
  obtain ⟨deamon₀, hresumes, hrun⟩ := hstep
  have hresumed := h.resumes hresumes
  obtain ⟨host, rfl, -⟩ := sendMulticastAdvertisement_ok hrun
  refine ⟨hkeys, fun key' hkey' => ?_, ?_⟩
  · rw [slot_markAllRoutesAsUnchanged, hresumed.other key' hkey']
    split_ifs <;> rfl
  · rw [slot_markAllRoutesAsUnchanged]
    split_ifs
    · exact hresumed.destination.unflag
    · exact hresumed.destination

theorem run_interfaces {deamon deamon' : RipDeamon Driver} {labels : List (Answers × DeamonEvent)}
    (hrun : Run Attempted deamon labels deamon') : deamon'.interfaces = deamon.interfaces := by
  induction hrun with
  | nil => rfl
  | snoc _ hstep ih =>
      obtain ⟨res, ⟨deamon₀, ⟨database, -, rfl⟩, rfl⟩, rfl⟩ := hstep
      exact (handle_sendsPart _ _).1.trans ih

theorem Converged.round (hdriver : NeverFails Driver) {deamons deamons' : Router → RipDeamon Driver}
    (h : Converged links origins key k deamons) (hround : Round links deamons () deamons') :
    Converged links origins key (k + 1) deamons' := by
  obtain ⟨advertised, sent, hrouters⟩ := hround
  have hadvertised := fun router => (hrouters router).1
  have hsent := fun router => (hrouters router).2.1
  constructor
  · intro router port hport
    obtain ⟨answers, hstep⟩ := hadvertised router
    obtain ⟨-, -, labels, hrun, -⟩ := hrouters router
    obtain ⟨-, -, -, hinterfaces, -⟩ := advertise_step hstep (hsent router)
    rw [run_interfaces hrun, hinterfaces]
    exact h.equipped router port hport
  · intro router
    obtain ⟨answers, hstep⟩ := hadvertised router
    obtain ⟨-, -, labels, hrun, hpackets⟩ := hrouters router
    have hstart := ((h.knows router).advertised hstep).mono
      (Q := Settling links origins key k router) .inl
    obtain ⟨hknows, hreached⟩ := packets_known hdriver hrun (fun label hlabel => by
      have hevent := hpackets.subset (List.mem_map_of_mem hlabel)
      obtain ⟨packet, hpacket, hevent⟩ := List.mem_map.mp hevent
      exact ⟨packet, hevent.symm, h.told hadvertised hsent hpacket⟩) hstart
    refine hknows.mono fun hsettling => ?_
    by_cases hnow : hops links.graph origins router = (k + 1 : ℕ) ∧ k + 1 ≤ 14
    · obtain ⟨packet, hpacket, hheard⟩ := h.reached hadvertised hsent hnow.1 hnow.2
      have hevent := hpackets.symm.subset (List.mem_map_of_mem (f := DeamonEvent.received) hpacket)
      obtain ⟨label, hlabel, hlast⟩ := List.mem_map.mp hevent
      exact hreached ⟨label, hlabel, hlast ▸ hheard⟩
    · refine hsettling.elim (fun hsettled => hsettled.succ fun hnext => ?_) id
      by_contra hfinite
      exact hnow ⟨hnext, by omega⟩

/-- The origins have one valid destination as a local route, on an interface
that is none of the links; all other tables are empty. -/
structure Start (links : Links Router) (origins : Set Router) (key : RipRouteKey)
    (deamons : Router → RipDeamon Driver) : Prop where
  equipped : ∀ router, ∀ port ∈ links.ports router,
    ∃ ifc ∈ (deamons router).interfaces, ifc.tx.ifIndex = port.ifIndex
  origin : ∀ router ∈ origins, ∃ route, slot (deamons router).database key = ⟨some route, none⟩ ∧
    route.isLocal = true ∧ ActiveRoute key route ∧ isEntryValid route.ripEntry = true ∧
    ∀ port ∈ links.ports router, route.ifIndex ≠ port.ifIndex
  empty : ∀ router key', router ∉ origins ∨ key' ≠ key →
    slot (deamons router).database key' = ⟨none, none⟩

omit [RoutingTableDriver Driver] in
theorem Start.converged {deamons : Router → RipDeamon Driver}
    (h : Start links origins key deamons) : Converged links origins key 0 deamons := by
  refine ⟨h.equipped, fun router => ⟨?_, fun key' hkey' => h.empty router key' (.inr hkey'), ?_⟩⟩
  · intro key' route hroute
    by_cases hempty : router ∉ origins ∨ key' ≠ key
    · have hnone := congrArg Slot.active (h.empty router key' hempty)
      rw [slot_active, hroute] at hnone
      simp at hnone
    · simp only [not_or, not_not] at hempty
      obtain ⟨horigin, rfl⟩ := hempty
      obtain ⟨route', hslot, -, hactive, -⟩ := h.origin router horigin
      have hsame := congrArg Slot.active hslot
      rw [slot_active, hroute] at hsame
      obtain rfl := Option.some.inj hsame
      exact hactive.keyed
  · by_cases horigin : router ∈ origins
    · obtain ⟨route, hslot, hlocal, hactive, hvalid, hindex⟩ := h.origin router horigin
      obtain ⟨hmetric, hhop, -⟩ := hactive.isLocal hlocal
      rw [hslot]
      refine settled_of_shortest (d := 0) (hops_eq_zero_iff.mpr horigin) le_rfl (by omega)
        ⟨route, rfl, hactive.keyed, hvalid, ?_, .inl ⟨rfl, hhop, hindex⟩⟩ rfl
      rw [hmetric]
      rfl
    · rw [h.empty router key (.inl horigin)]
      refine settled_of_none (fun d hd hzero => ?_) rfl rfl
      obtain rfl : d = 0 := by omega
      exact absurd (hops_eq_zero_iff.mp hd) horigin

theorem rounds_converged (hdriver : NeverFails Driver)
    {deamons deamons' : Router → RipDeamon Driver} (hstart : Start links origins key deamons)
    {rounds : List Unit} (hrun : Run (Round links) deamons rounds deamons') :
    Converged links origins key rounds.length deamons' := by
  induction hrun with
  | nil => exact hstart.converged
  | snoc _ hround ih =>
      rw [List.length_append]
      exact ih.round hdriver hround

/-- Synchronous convergence: after any number of rounds the routers at a
distance of no more than that, and of 14 at most, have an active route whose
metric is one more than their distance, through a neighbour that is one hop
closer; the others have no active route at all. -/
theorem rounds_shortest (hdriver : NeverFails Driver)
    {deamons deamons' : Router → RipDeamon Driver} (hstart : Start links origins key deamons)
    {rounds : List Unit} (hrun : Run (Round links) deamons rounds deamons') (router : Router) :
    (∀ d : ℕ, hops links.graph origins router = d → d ≤ rounds.length → d ≤ 14 →
      ∃ route, (deamons' router).database.okRoutes.lookup key = some route ∧
        route.ripEntry.metric.toNat = d + 1 ∧
        (1 ≤ d → ∃ port ∈ links.ports router,
          hops links.graph origins (links.peer router port).1 = (d - 1 : ℕ) ∧
          route.ripEntry.nextHop = (links.peer router port).2.address ∧
          route.ifIndex = port.ifIndex)) ∧
    (rounds.length < hops links.graph origins router ∨ 15 ≤ hops links.graph origins router →
      ∀ key', (deamons' router).database.okRoutes.lookup key' = none) := by
  obtain ⟨-, hother, hsettled⟩ := (rounds_converged hdriver hstart hrun).knows router
  constructor
  · intro d hd hround hfinite
    obtain ⟨route, hactive, hshortest⟩ := hsettled.near d hd hround hfinite
    refine ⟨route, hactive, hshortest.metric, fun hpositive => ?_⟩
    rcases hshortest.via with ⟨hzero, -, -⟩ | ⟨port, hport, hcloser, hhop, hindex⟩
    · omega
    · refine ⟨port, hport, ?_, hhop, hindex⟩
      have hfar : hops links.graph origins (links.peer router port).1 ≠ ⊤ := by
        intro htop
        simp [htop] at hcloser
      obtain ⟨e, he⟩ := ENat.ne_top_iff_exists.mp hfar
      rw [← he] at hcloser ⊢
      have hnext : e + 1 = d := by exact_mod_cast hcloser
      rw [← hnext, Nat.add_sub_cancel]
  · intro hbeyond key'
    by_cases hkey' : key' = key
    · rw [hkey']
      refine hsettled.far fun d hd hround => ?_
      rw [hd] at hbeyond
      rcases hbeyond with hlate | hinfinite
      · have hlt : rounds.length < d := by exact_mod_cast hlate
        omega
      · have hle : 15 ≤ d := by exact_mod_cast hinfinite
        omega
    · exact congrArg Slot.active (hother key' hkey')

def endOf (router : Bool) : Port where
  ifName := "eth1"
  ifIndex := 2
  address := if router then 0x0a030002 else 0x0a030001

/-- One link between two routers. -/
def crossover : Links Bool where
  ports router := [endOf router]
  peer router _ := (!router, endOf !router)
  peer_mem _ _ _ := List.mem_singleton.mpr rfl
  peer_peer router port hport := by
    rw [List.mem_singleton.mp hport, Bool.not_not]
  ifIndex_inj router port hport port' hport' _ := by
    rw [List.mem_singleton.mp hport, List.mem_singleton.mp hport']
  address_inj router router' port hport port' hport' haddress := by
    obtain rfl := List.mem_singleton.mp hport
    obtain rfl := List.mem_singleton.mp hport'
    revert router router'
    decide
  address_ne_zero router port hport := by
    obtain rfl := List.mem_singleton.mp hport
    revert router
    decide

/-- The network that one of the two routers has. -/
def nearLocalRoute : LocalRoute where
  entry := plainEntry nearNetwork 1
  ifIndex := 1
  ifName := "eth0"

/-- Only the first router has a network. -/
def oneOrigin (router : Bool) : RipDeamon Kernel :=
  if router then bareDeamon
  else { bareDeamon with database := adopt nearLocalRoute RipDatabase.new }

theorem oneOrigin_start : Start crossover {false} nearNetwork oneOrigin := by
  have hlocal : advertisedNetworkToLocalRoute steady
      { address := "10.1.0.0", prefixLen := 16, dev := "eth0" } = .ok nearLocalRoute := by
    decide +kernel
  have hslot : ∀ key, slot (oneOrigin false).database key =
      if key = nearNetwork then ⟨some (localRouteEntry nearLocalRoute), none⟩
      else ⟨none, none⟩ :=
    slot_adopt nearLocalRoute RipDatabase.new
  constructor
  · intro router port hport
    obtain rfl := List.mem_singleton.mp hport
    revert router
    decide
  · intro router horigin
    obtain rfl := Set.mem_singleton_iff.mp horigin
    refine ⟨localRouteEntry nearLocalRoute, ?_, rfl, localRouteEntry_activeRoute hlocal,
      by decide, ?_⟩
    · rw [hslot, if_pos rfl]
    · intro port hport
      obtain rfl := List.mem_singleton.mp hport
      decide
  · intro router key' hempty
    by_cases hrouter : router = false
    · have hkey' : key' ≠ nearNetwork := hempty.resolve_left (not_not.mpr hrouter)
      rw [hrouter, hslot, if_neg hkey']
    · obtain rfl := Bool.eq_true_of_not_eq_false hrouter
      rfl

theorem crossover_distance : hops crossover.graph {false} true = (1 : ℕ) := by
  have hport : endOf true ∈ crossover.ports true := List.mem_singleton.mpr rfl
  have hle := hops_le_add_one {false} (crossover.adj_peer hport)
  have hzero : hops crossover.graph {false} (crossover.peer true (endOf true)).1 = 0 :=
    hops_eq_zero_iff.mpr rfl
  have hne : hops crossover.graph {false} true ≠ 0 := by
    intro hmem
    exact absurd (hops_eq_zero_iff.mp hmem) (by simp)
  rw [hzero, zero_add] at hle
  exact le_antisymm hle (Order.one_le_iff_ne_zero.mpr hne)

theorem crossover_shortest :
    ∃ deamons', Run (Round crossover) oneOrigin [()] deamons' ∧
      ∃ route, (deamons' true).database.okRoutes.lookup nearNetwork = some route ∧
        route.ripEntry.metric.toNat = 2 := by
  obtain ⟨deamons', hround⟩ := exists_round crossover oneOrigin (Answers.steady_reliable 0 [])
  have hrun : Run (Round crossover) oneOrigin [()] deamons' := .single hround
  obtain ⟨route, hroute, hmetric, -⟩ :=
    (rounds_shortest kernel_neverFails oneOrigin_start hrun true).1 1 crossover_distance
      le_rfl (by omega)
  exact ⟨deamons', hrun, route, hroute, hmetric⟩

end RipV2.SynchronousRounds
