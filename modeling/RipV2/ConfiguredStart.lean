import Mathlib.Data.List.Induction
import Mathlib.Data.Stream.Init
import RipV2.LoopPasses

namespace RipV2.ConfiguredStart

open RipV2.Database
open RipV2.Deamon
open RipV2.Deamon.RipDeamon
open RipV2.DeamonLoop
open RipV2.DeamonRuns
open RipV2.DeamonSimulation
open RipV2.EffectLogic
open RipV2.HashMapModel
open RipV2.HostEnvironment
open RipV2.LocalRoutes
open RipV2.Results
open RipV2.Updater

variable {Driver : Type}

/-- The interface with its two sockets, when the system knows its name. -/
def Configures (answers : Answers) (dev : String) (ifc : RipIfc) : Prop :=
  ∃ ifIndex, answers.ifcNametoindex dev = .ok ifIndex ∧
    ifc = { ifName := dev, rx := some { ifName := dev, ifIndex }, tx := { ifName := dev, ifIndex } }

/-- The name is known, and two sockets open, the first of them as the `n`th. -/
structure Opens (answers : Answers) (n : ℕ) (dev : String) : Prop where
  named : ∃ ifIndex, answers.ifcNametoindex dev = .ok ifIndex
  tx : answers.socketResults n = .ok ()
  rx : answers.socketResults (n + 1) = .ok ()

/-- The host after `n` attempts to open a socket. -/
def opened (n : ℕ) (host : Host) : Host :=
  { host with answers := { host.answers with socketResults := host.answers.socketResults.drop n } }

theorem opened_opened (m n : ℕ) (host : Host) : opened n (opened m host) = opened (m + n) host := by
  simp only [opened, Stream'.drop_drop]

theorem openSocket_run (host : Host) :
    openSocket.run host =
      match host.answers.socketResults 0 with
      | .ok () => .ok () (opened 1 host)
      | .error e => .error e (opened 1 host) := by
  rfl

theorem socket_create_cases (ifName : String) (host : Host) :
    (∃ ifIndex, host.answers.ifcNametoindex ifName = .ok ifIndex ∧
        host.answers.socketResults 0 = .ok () ∧
        (RipSocket.create ifName).run host = .ok { ifName, ifIndex } (opened 1 host)) ∨
      ¬((∃ ifIndex, host.answers.ifcNametoindex ifName = .ok ifIndex) ∧
          host.answers.socketResults 0 = .ok ()) ∧
        ∃ message n, (RipSocket.create ifName).run host = .error message (opened n host) := by
  simp only [RipSocket.create, EStateM.run_bind, EStateM.run_get]
  cases hindex : host.answers.ifcNametoindex ifName with
  | error e => exact .inr ⟨by simp, e, 0, rfl⟩
  | ok ifIndex =>
      simp only [EStateM.run_bind, openSocket_run]
      cases hsocket : host.answers.socketResults 0 with
      | error e => exact .inr ⟨by simp, e, 1, rfl⟩
      | ok u => exact .inl ⟨ifIndex, rfl, rfl, rfl⟩

theorem create_cases (dev : String) (host : Host) :
    (Opens host.answers 0 dev ∧ ∃ ifc, Configures host.answers dev ifc ∧
        (RipIfc.create dev).run host = .ok ifc (opened 2 host)) ∨
      ¬Opens host.answers 0 dev ∧ ∃ message n, (RipIfc.create dev).run host =
        .error (.failedToConfigureInterface message dev) (opened n host) := by
  simp only [RipIfc.create, RipIfc.createIfc, EStateM.run_adaptExcept, EStateM.run_bind,
    RipSocket.newTxSocket, RipSocket.newRxSocket]
  rcases socket_create_cases dev host with ⟨ifIndex, hindex, htx, hrun⟩ | ⟨hfails, e, n, hrun⟩
  · simp only [hrun]
    rcases socket_create_cases dev (opened 1 host) with
      ⟨ifIndex', hindex', hrx, hrun'⟩ | ⟨hfails, e, n, hrun'⟩
    · obtain rfl : ifIndex = ifIndex' := Except.ok.inj (hindex.symm.trans hindex')
      simp only [hrun']
      exact .inl ⟨⟨⟨ifIndex, hindex⟩, htx, hrx⟩, _, ⟨ifIndex, hindex, rfl⟩, rfl⟩
    · simp only [hrun', opened_opened]
      exact .inr ⟨fun hopens => hfails ⟨hopens.named, hopens.rx⟩, e, _, rfl⟩
  · simp only [hrun]
    exact .inr ⟨fun hopens => hfails ⟨hopens.named, hopens.tx⟩, e, n, rfl⟩

/-- Each interface opens, with the next two answers. -/
def AllOpen (answers : Answers) (n : ℕ) (devs : List String) : Prop :=
  ∀ i dev, devs[i]? = some dev → Opens answers (n + 2 * i) dev

theorem allOpen_cons {answers : Answers} {n : ℕ} {dev : String} {devs : List String} :
    AllOpen answers n (dev :: devs) ↔ Opens answers n dev ∧ AllOpen answers (n + 2) devs := by
  constructor
  · intro h
    refine ⟨h 0 dev rfl, fun i dev' hdev => ?_⟩
    have hopens := h (i + 1) dev' (by simpa using hdev)
    rwa [show n + 2 * (i + 1) = n + 2 + 2 * i by omega] at hopens
  · rintro ⟨hfirst, hrest⟩ i dev' hdev
    cases i with
    | zero =>
        obtain rfl : dev = dev' := by simpa using hdev
        exact hfirst
    | succ i =>
        have hopens := hrest i dev' (by simpa using hdev)
        rwa [show n + 2 * (i + 1) = n + 2 + 2 * i by omega]

theorem opens_opened {m n : ℕ} {host : Host} {dev : String} :
    Opens (opened m host).answers n dev ↔ Opens host.answers (m + n) dev := by
  have hdrop : ∀ k, (opened m host).answers.socketResults k = host.answers.socketResults (m + k) :=
    fun k => congrArg host.answers.socketResults (Nat.add_comm k m)
  constructor
  · rintro ⟨hnamed, htx, hrx⟩
    exact ⟨hnamed, hdrop n ▸ htx, hdrop (n + 1) ▸ hrx⟩
  · rintro ⟨hnamed, htx, hrx⟩
    exact ⟨hnamed, (hdrop n).trans htx, (hdrop (n + 1)).trans hrx⟩

/-- The first interface that does not open. -/
def FirstClosed (answers : Answers) (n : ℕ) (devs : List String) (dev : String) : Prop :=
  ∃ i, devs[i]? = some dev ∧ AllOpen answers n (devs.take i) ∧ ¬Opens answers (n + 2 * i) dev

theorem allOpen_opened {m n : ℕ} {host : Host} {devs : List String} :
    AllOpen (opened m host).answers n devs ↔ AllOpen host.answers (m + n) devs := by
  simp only [AllOpen, opens_opened, Nat.add_assoc]

theorem FirstClosed.cons {n : ℕ} {host : Host} {dev dev' : String} {devs : List String}
    (hopens : Opens host.answers n dev')
    (h : FirstClosed (opened 2 host).answers n devs dev) :
    FirstClosed host.answers n (dev' :: devs) dev := by
  obtain ⟨i, hdev, hbefore, hfails⟩ := h
  rw [allOpen_opened, Nat.add_comm] at hbefore
  rw [opens_opened] at hfails
  refine ⟨i + 1, by simpa using hdev, ?_, ?_⟩
  · rw [List.take_succ_cons]
    exact allOpen_cons.mpr ⟨hopens, hbefore⟩
  · rwa [show n + 2 * (i + 1) = 2 + (n + 2 * i) by omega]

theorem setupSockets_cases (devs : List String) (deamon : RipDeamon Driver) :
    (AllOpen deamon.host.answers 0 devs ∧ ∃ ifcs,
        List.Forall₂ (Configures deamon.host.answers) devs ifcs ∧
        (setupSockets devs).run deamon = .ok () { deamon with
          interfaces := deamon.interfaces ++ ifcs
          host := opened (2 * devs.length) deamon.host }) ∨
      ¬AllOpen deamon.host.answers 0 devs ∧ ∃ dev message interfaces n,
        FirstClosed deamon.host.answers 0 devs dev ∧ (setupSockets devs).run deamon =
          .error (.failedToConfigureInterface message dev)
            { deamon with interfaces, host := opened n deamon.host } := by
  -- one interface is opened after the other
  induction devs generalizing deamon with
  | nil => exact .inl ⟨by simp [AllOpen], [], .nil, by simp [setupSockets, opened]⟩
  | cons dev devs ih =>
      simp only [setupSockets, List.forM_eq_forM, List.forM_cons, EStateM.run_bind, onHost,
        run_zoom]
      rw [allOpen_cons]
      rcases create_cases dev deamon.host with
        ⟨hopens, ifc, hconfigures, hrun⟩ | ⟨hfails, message, n, hrun⟩
      · simp only [hrun, EStateM.run_modify]
        have hrest := ih { deamon with
          interfaces := deamon.interfaces ++ [ifc], host := opened 2 deamon.host }
        simp only [setupSockets, List.forM_eq_forM, onHost, opened_opened] at hrest
        rw [allOpen_opened] at hrest
        rcases hrest with
          ⟨hrest, ifcs, hifcs, hrun'⟩ | ⟨hfails, dev', message, interfaces, n, hfirst, hrun'⟩
        · refine .inl ⟨⟨hopens, hrest⟩, ifc :: ifcs, .cons hconfigures hifcs, ?_⟩
          rw [hrun', List.append_assoc, List.length_cons,
            show 2 + 2 * devs.length = 2 * (devs.length + 1) by omega]
          rfl
        · exact .inr ⟨fun hall => hfails hall.2, dev', message, interfaces, _,
            hfirst.cons hopens, hrun'⟩
      · simp only [hrun]
        exact .inr ⟨fun hall => hfails hall.1, dev, message, deamon.interfaces, n,
          ⟨0, rfl, by simp [AllOpen], hfails⟩, rfl⟩

/-- A daemon with interfaces and without routes. -/
def equipped (driver : Driver) (host : Host) (interfaces : List RipIfc) : RipDeamon Driver where
  routingTable := { driver }
  interfaces := interfaces
  database := RipDatabase.new
  host := host

theorem setupSockets_new (driver : Driver) (host : Host) (devs : List String) :
    (AllOpen host.answers 0 devs ∧ ∃ interfaces n,
        List.Forall₂ (Configures host.answers) devs interfaces ∧
        (setupSockets devs).run (RipDeamon.new driver host) =
          .ok () (equipped driver (opened n host) interfaces)) ∨
      ∃ dev message interfaces n, FirstClosed host.answers 0 devs dev ∧
        (setupSockets devs).run (RipDeamon.new driver host) =
          .error (.failedToConfigureInterface message dev)
            (equipped driver (opened n host) interfaces) := by
  rcases setupSockets_cases devs (RipDeamon.new driver host) with
    ⟨hopens, interfaces, hinterfaces, hrun⟩ | ⟨-, dev, message, interfaces, n, hfirst, hrun⟩
  · exact .inl ⟨hopens, interfaces, _, hinterfaces, hrun⟩
  · exact .inr ⟨dev, message, interfaces, n, hfirst, hrun⟩

/-- The route is the local route of one of the networks. -/
def FromNetworks (answers : Answers) (networks : List AdvertisedNetwork) (key : RipRouteKey)
    (route : RipDbEntry) : Prop :=
  ∃ network ∈ networks, ∃ localRoute,
    advertisedNetworkToLocalRoute answers network = .ok localRoute ∧
    buildRouteKey localRoute.entry = key ∧ route = localRouteEntry localRoute

/-- The networks are valid and have different destinations. -/
structure Advertisable (answers : Answers) (networks : List AdvertisedNetwork) : Prop where
  valid : ∀ network ∈ networks, ∃ localRoute,
    advertisedNetworkToLocalRoute answers network = .ok localRoute
  distinct : networks.Pairwise fun network network' => ∀ localRoute localRoute',
    advertisedNetworkToLocalRoute answers network = .ok localRoute →
    advertisedNetworkToLocalRoute answers network' = .ok localRoute' →
    buildRouteKey localRoute.entry ≠ buildRouteKey localRoute'.entry

/-- The first network that is not accepted after those before it, and the error for it. -/
def Refused (answers : Answers) (networks : List AdvertisedNetwork) (e : RipError) : Prop :=
  ∃ before network after, networks = before ++ network :: after ∧ Advertisable answers before ∧
    (advertisedNetworkToLocalRoute answers network = .error e ∨
      ∃ localRoute, advertisedNetworkToLocalRoute answers network = .ok localRoute ∧
        (∃ route, FromNetworks answers before (buildRouteKey localRoute.entry) route) ∧
        e = .invalidConfiguration ("route already exists in RIP database: " ++
          (buildRouteKey localRoute.entry).toString))

section Networks

variable {answers : Answers} {networks : List AdvertisedNetwork} {network : AdvertisedNetwork}

theorem fromNetworks_snoc {key : RipRouteKey} {route : RipDbEntry} :
    FromNetworks answers (networks ++ [network]) key route ↔
      FromNetworks answers networks key route ∨ FromNetworks answers [network] key route := by
  simp only [FromNetworks, List.mem_append, or_and_right, exists_or]

theorem advertisable_snoc :
    Advertisable answers (networks ++ [network]) ↔ Advertisable answers networks ∧
      ∃ localRoute, advertisedNetworkToLocalRoute answers network = .ok localRoute ∧
        ∀ route, ¬FromNetworks answers networks (buildRouteKey localRoute.entry) route := by
  constructor
  · rintro ⟨hvalid, hdistinct⟩
    obtain ⟨hbefore, -, hlast⟩ := List.pairwise_append.mp hdistinct
    obtain ⟨localRoute, hroute⟩ := hvalid network (by simp)
    refine ⟨⟨fun other hother => hvalid other (by simp [hother]), hbefore⟩, localRoute, hroute, ?_⟩
    rintro route ⟨other, hother, localRoute', hroute', hkey, -⟩
    exact hlast other hother network (by simp) _ _ hroute' hroute hkey
  · rintro ⟨⟨hvalid, hdistinct⟩, localRoute, hroute, hnew⟩
    constructor
    · intro other hother
      rcases List.mem_append.mp hother with hother | hother
      · exact hvalid other hother
      · rw [List.mem_singleton.mp hother]
        exact ⟨localRoute, hroute⟩
    · refine List.pairwise_append.mpr ⟨hdistinct, List.pairwise_singleton _ _, ?_⟩
      intro other hother last hlast localRoute₁ localRoute₂ hroute₁ hroute₂ hkey
      rw [List.mem_singleton.mp hlast, hroute] at hroute₂
      obtain rfl := Except.ok.inj hroute₂
      exact hnew _ ⟨other, hother, localRoute₁, hroute₁, hkey, rfl⟩

theorem Refused.snoc {e : RipError} (h : Refused answers networks e)
    (network : AdvertisedNetwork) : Refused answers (networks ++ [network]) e := by
  obtain ⟨before, refused, after, rfl, hrefused⟩ := h
  exact ⟨before, refused, after ++ [network], by simp, hrefused⟩

end Networks

theorem setupAdvertisedNetwork_run (network : AdvertisedNetwork) (deamon : RipDeamon Driver) :
    (setupAdvertisedNetwork network).run deamon =
      match advertisedNetworkToLocalRoute deamon.host.answers network with
      | .error e => .error e deamon
      | .ok localRoute =>
          match deamon.database.okRoutes.lookup (buildRouteKey localRoute.entry) with
          | none => .ok () { deamon with database := adopt localRoute deamon.database }
          | some _ => .error (.invalidConfiguration ("route already exists in RIP database: " ++
              (buildRouteKey localRoute.entry).toString)) deamon := by
  rw [setupAdvertisedNetwork, EStateM.run_bind, EStateM.run_get]
  cases hroute : advertisedNetworkToLocalRoute deamon.host.answers network with
  | error e => simp [hroute]
  | ok localRoute =>
      cases hfree : deamon.database.okRoutes.lookup (buildRouteKey localRoute.entry) <;>
        simp [hroute, onDatabase, RipDatabase.addLocalRoute, RipDatabase.addRoute, EStateM.run,
          bind, EStateM.bind, zoom, hfree, adopt, localRouteEntry, pure, EStateM.pure]

theorem setupNetworks_cases (networks : List AdvertisedNetwork) {deamon : RipDeamon Driver}
    {answers : Answers} (hnew : deamon.database = RipDatabase.new)
    (hsame : ∀ network, advertisedNetworkToLocalRoute deamon.host.answers network =
      advertisedNetworkToLocalRoute answers network) :
    (Advertisable answers networks ∧ ∃ database,
        (networks.forM setupAdvertisedNetwork).run deamon = .ok () { deamon with database } ∧
        database.garbageRoutes = .empty ∧
        ∀ key route, database.okRoutes.lookup key = some route ↔
          FromNetworks answers networks key route) ∨
      ¬Advertisable answers networks ∧ ∃ e database,
        (networks.forM setupAdvertisedNetwork).run deamon = .error e { deamon with database } ∧
        Refused answers networks e := by
  -- each network is added to what those before it have left
  induction networks using List.reverseRecOn with
  | nil =>
      refine .inl ⟨⟨by simp, .nil⟩, deamon.database, rfl, by rw [hnew]; rfl, fun key route => ?_⟩
      rw [hnew]
      exact iff_of_false (by simp [RipDatabase.new]) (by simp [FromNetworks])
  | append_singleton networks network ih =>
      simp only [List.forM_eq_forM] at ih ⊢
      rw [List.forM_append, EStateM.run_bind, advertisable_snoc]
      rcases ih with ⟨hbefore, database, hrun, hgarbage, hroutes⟩ | ⟨hfails, e, database, hrun, he⟩
      · simp only [hrun, List.forM_cons, List.forM_nil, EStateM.run_bind,
          setupAdvertisedNetwork_run, hsame]
        cases hroute : advertisedNetworkToLocalRoute answers network with
        | error e =>
            refine .inr ⟨?_, e, database, rfl, networks, network, [], rfl, hbefore, .inl hroute⟩
            rintro ⟨-, localRoute, hvalid, -⟩
            simp at hvalid
        | ok localRoute =>
            cases hfree : database.okRoutes.lookup (buildRouteKey localRoute.entry) with
            | some old =>
                have htaken := (hroutes _ _).mp hfree
                simp only [hfree]
                refine .inr ⟨?_, _, database, rfl, ?_⟩
                · rintro ⟨-, localRoute', hroute', hnone⟩
                  obtain rfl := Except.ok.inj hroute'
                  exact hnone _ htaken
                · exact ⟨networks, network, [], rfl, hbefore,
                    .inr ⟨localRoute, hroute, ⟨old, htaken⟩, rfl⟩⟩
            | none =>
                simp only [hfree]
                refine .inl ⟨⟨hbefore, localRoute, rfl, fun route htaken => ?_⟩, _, rfl, hgarbage,
                  fun key route => ?_⟩
                · simp [(hroutes _ _).mpr htaken] at hfree
                · have hlast : FromNetworks answers [network] key route ↔
                      key = buildRouteKey localRoute.entry ∧
                        route = localRouteEntry localRoute := by
                    simp [FromNetworks, hroute, eq_comm]
                  rw [fromNetworks_snoc, ← hroutes, hlast, adopt, HashMap.lookup_insert]
                  split_ifs with hkey
                  · rw [hkey, hfree]
                    simp [eq_comm]
                  · simp [hkey]
      · simp only [hrun]
        exact .inr ⟨fun hall => hfails hall.1, e, database, rfl, he.snoc network⟩

/-- The daemon that the configuration describes. -/
structure Configured (answers : Answers) (ripCfg : RipConfiguration) (deamon : RipDeamon Driver) :
    Prop where
  interfaces : List.Forall₂ (Configures answers) ripCfg.ripInterfaces deamon.interfaces
  okRoutes : ∀ key route, deamon.database.okRoutes.lookup key = some route ↔
    FromNetworks answers ripCfg.advertisedNetworks key route
  garbageRoutes : deamon.database.garbageRoutes = .empty

theorem setup_untouched (driver : Driver) (host : Host) (ripCfg : RipConfiguration) :
    (finalState ((setup (.ok ripCfg)).run (RipDeamon.new driver host))).routingTable = { driver } ∧
      (finalState ((setup (.ok ripCfg)).run (RipDeamon.new driver host))).host.sent =
        host.sent := by
  simp only [setup, EStateM.run_bind]
  rcases setupSockets_new driver host ripCfg.ripInterfaces with
    ⟨-, interfaces, n, -, hrun⟩ | ⟨dev, message, interfaces, n, -, hrun⟩
  · simp only [hrun]
    rcases @setupNetworks_cases Driver ripCfg.advertisedNetworks
        (equipped driver (opened n host) interfaces) host.answers rfl fun _ => rfl with
      ⟨-, database, hrun', -⟩ | ⟨-, e, database, hrun', -⟩
    all_goals
      rw [hrun']
      exact ⟨rfl, rfl⟩
  · simp only [hrun]
    exact ⟨rfl, rfl⟩

/-- A configuration is accepted just if all its interfaces open and all its networks are
valid and have different destinations. The daemon is then as it describes. Otherwise the
error is that of the first interface or network at fault. -/
theorem setup_configured (driver : Driver) (host : Host) (ripCfg : RipConfiguration) :
    let res := (setup (.ok ripCfg)).run (RipDeamon.new driver host)
    ((AllOpen host.answers 0 ripCfg.ripInterfaces ∧
        Advertisable host.answers ripCfg.advertisedNetworks ∧
        ∃ deamon, res = .ok () deamon ∧ Configured host.answers ripCfg deamon) ∨
      ∃ e deamon, res = .error e deamon ∧
        ((∃ dev message, FirstClosed host.answers 0 ripCfg.ripInterfaces dev ∧
            e = .failedToConfigureInterface message dev) ∨
          AllOpen host.answers 0 ripCfg.ripInterfaces ∧
            ¬Advertisable host.answers ripCfg.advertisedNetworks ∧
            Refused host.answers ripCfg.advertisedNetworks e)) ∧
    (finalState res).routingTable = { driver } ∧ (finalState res).host.sent = host.sent := by
  refine ⟨?_, setup_untouched driver host ripCfg⟩
  simp only [setup, EStateM.run_bind]
  rcases setupSockets_new driver host ripCfg.ripInterfaces with
    ⟨hopens, interfaces, n, hinterfaces, hrun⟩ | ⟨dev, message, interfaces, n, hfirst, hrun⟩
  · simp only [hrun]
    rcases @setupNetworks_cases Driver ripCfg.advertisedNetworks
        (equipped driver (opened n host) interfaces) host.answers rfl fun _ => rfl with
      ⟨hadvertisable, database, hrun', hgarbage, hroutes⟩ | ⟨hfails, e, database, hrun', hrefused⟩
    · exact .inl ⟨hopens, hadvertisable, _, hrun', hinterfaces, hroutes, hgarbage⟩
    · exact .inr ⟨e, _, hrun', .inr ⟨hopens, hfails, hrefused⟩⟩
  · simp only [hrun]
    exact .inr ⟨_, _, rfl, .inl ⟨dev, message, hfirst, rfl⟩⟩

theorem loopInitial_sent {loop : EventLoop Driver} (h : LoopInitial loop) :
    loop.deamon.host.sent = [] := by
  obtain ⟨driver, host, ripCfg, sigterm, deamon, deamon', hsent, hsetup, henter⟩ := h
  have hquiet : deamon.host.sent = [] := by
    cases ripCfg with
    | error e =>
        change EStateM.Result.error _ _ = _ at hsetup
        simp at hsetup
    | ok ripCfg =>
        have huntouched := (setup_untouched driver host ripCfg).2
        rw [hsetup] at huntouched
        exact huntouched.trans hsent
  cases sigterm with
  | error e =>
      change EStateM.Result.error _ _ = _ at henter
      simp at henter
  | ok a =>
      change EStateM.Result.ok _ _ = _ at henter
      obtain rfl := (EStateM.Result.ok.inj henter).1
      exact hquiet

end RipV2.ConfiguredStart
