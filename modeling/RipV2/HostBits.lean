import RipV2.HeardEntries
import RipV2.KernelRoutes

namespace RipV2.HostBits

open RipV2.Database
open RipV2.Deamon
open RipV2.Deamon.RipDeamon
open RipV2.DeamonRuns
open RipV2.DestinationSlots
open RipV2.EffectLogic
open RipV2.HeardEntries
open RipV2.HostEnvironment
open RipV2.KernelRoutes
open RipV2.LocalRoutes
open RipV2.ReachableRoutes
open RipV2.RoutingTables
open RipV2.TransitionRuns

/-- The bits of the address that the mask does not cover. -/
def RipRouteKey.hostBits (key : RipRouteKey) : UInt32 :=
  key.ipAddress &&& ~~~key.subnetMask

/-- No active route has an address with host bits. -/
def NoHostBits (database : RipDatabase) : Prop :=
  ∀ key route, database.okRoutes.lookup key = some route →
    route.ripEntry.ipAddress &&& ~~~route.ripEntry.subnetMask = 0

/-- Two destinations with the same mask lie in the same network. -/
def SameNetwork (key key' : RipRouteKey) : Prop :=
  key.subnetMask = key'.subnetMask ∧
    key.ipAddress &&& key.subnetMask = key'.ipAddress &&& key'.subnetMask

/-- No network has two active routes. -/
def OneRoutePerNetwork (database : RipDatabase) : Prop :=
  ∀ key key' route route', database.okRoutes.lookup key = some route →
    database.okRoutes.lookup key' = some route' → SameNetwork key key' → key = key'

theorem and_mask_of_hostBits {key : RipRouteKey} (h : RipRouteKey.hostBits key = 0) :
    key.ipAddress &&& key.subnetMask = key.ipAddress := by
  rw [RipRouteKey.hostBits] at h
  apply UInt32.toBitVec_inj.mp
  have hbits := congrArg UInt32.toBitVec h
  simp only [UInt32.toBitVec_and, UInt32.toBitVec_not] at hbits ⊢
  ext i hi
  have hbit := congrArg (fun bits => bits.getLsbD i) hbits
  simpa [hi] using hbit

theorem eq_of_sameNetwork {key key' : RipRouteKey} (hbits : RipRouteKey.hostBits key = 0)
    (hbits' : RipRouteKey.hostBits key' = 0) (hsame : SameNetwork key key') : key = key' := by
  obtain ⟨hmask, hnetwork⟩ := hsame
  rw [and_mask_of_hostBits hbits, and_mask_of_hostBits hbits'] at hnetwork
  cases key
  cases key'
  simp_all

theorem oneRoutePerNetwork {database : RipDatabase} (hkeys : KeysMatch database)
    (h : NoHostBits database) : OneRoutePerNetwork database := by
  intro key key' route route' hroute hroute' hsame
  have hkey := h key route hroute
  have hkey' := h key' route' hroute'
  apply eq_of_sameNetwork _ _ hsame
  · rw [← hkeys key route hroute]
    exact hkey
  · rw [← hkeys key' route' hroute']
    exact hkey'

/-- The last valid entry of the response for some destination with host bits
comes to a finite metric. -/
def LeavesHostBits (event : DeamonEvent) : Prop :=
  ∃ key entry ifInfo, RipRouteKey.hostBits key ≠ 0 ∧
    (event.heard key).getLast? = some (entry, ifInfo) ∧ entry.metric < ripInfinityMetric

variable {Driver : Type} [RoutingTableDriver Driver]

theorem noHostBits_iff {database : RipDatabase} (hkeys : KeysMatch database) :
    NoHostBits database ↔
      ∀ key, RipRouteKey.hostBits key ≠ 0 → database.okRoutes.lookup key = none := by
  constructor
  · intro h key hbits
    rw [Option.eq_none_iff_forall_ne_some]
    intro route hroute
    apply hbits
    rw [← hkeys key route hroute]
    exact h key route hroute
  · intro h key route hroute
    by_contra hbits
    have hnone := h key (by rw [← hkeys key route hroute]; exact hbits)
    rw [hroute] at hnone
    simp at hnone

omit [RoutingTableDriver Driver] in
theorem inactive_of_unheard {key : RipRouteKey} (hbits : RipRouteKey.hostBits key ≠ 0)
    {s s' : Slot} {actions : List SlotAction} (hrun : Run SlotStep s actions s')
    (hactions : ∀ action ∈ actions, Caused key action ∧ action.heard? = none)
    (hs : s.active = none) : s'.active = none := by
  refine hrun.keeps (I := fun s => s.active = none) ?_ hactions hs
  rintro s action s' ⟨⟨answers, event, hcaused⟩, hunheard⟩ hnone hstep
  rw [Option.eq_none_iff_forall_ne_some]
  intro route hroute
  rcases active_origin hstep hroute with ⟨old, hold, -⟩ | ⟨_, _, _, rfl, -, -⟩ | rfl
  · rw [hnone] at hold
    simp at hold
  · simp [SlotAction.heard?] at hunheard
  · obtain ⟨network, localRoute, -, hlocal, -, rfl⟩ := hcaused
    exact hbits (advertisedNetworkToLocalRoute_masked hlocal)

theorem step_active_iff {deamon deamon' : RipDeamon Driver} {label : Answers × DeamonEvent}
    {key : RipRouteKey} (hkeys : KeysMatch deamon.database)
    (hbits : RipRouteKey.hostBits key ≠ 0) (hs : deamon.database.okRoutes.lookup key = none)
    (hstep : Step deamon label deamon') :
    deamon'.database.okRoutes.lookup key ≠ none ↔
      ∃ entry ifInfo, (label.2.heard key).getLast? = some (entry, ifInfo) ∧
        entry.metric < ripInfinityMetric := by
  by_cases hempty : label.2.heard key = []
  · obtain ⟨actions, hrun, hcaused, hheard⟩ := outcome_simulated hstep hkeys key
    have hactions : ∀ action ∈ actions, Caused key action ∧ action.heard? = none := by
      intro action hmem
      have hnone := (hheard rfl).trans hempty
      rw [List.filterMap_eq_nil_iff] at hnone
      exact ⟨⟨label.1, label.2, hcaused action hmem⟩, hnone action hmem⟩
    have hinactive := inactive_of_unheard hbits hrun hactions hs
    simp only [finalState_ok, slot_active] at hinactive
    simp [hinactive, hempty]
  · obtain ⟨deamon₀, ⟨database, hreordered, rfl⟩, hrun⟩ := hstep
    obtain ⟨answers, event⟩ := label
    cases event with
    | received packet =>
        have hhears := handlePacket_ok_hears (hkeys.reordered hreordered) hrun key
        rw [slot_reordered hreordered key] at hhears
        obtain ⟨nextHop, hhops⟩ := nextHop_of_heard (.received packet) key
        have hvia : Via nextHop (slot deamon.database key) := by
          intro route hroute
          rw [slot_active, hs] at hroute
          simp at hroute
        have hactive := hvia.hears hhops hhears
        rw [if_neg hempty, slot_active] at hactive
        rw [Option.ne_none_iff_isSome]
        exact hactive
    | _ => exact absurd rfl hempty

theorem step_noHostBits {deamon deamon' : RipDeamon Driver} {label : Answers × DeamonEvent}
    (hkeys : KeysMatch deamon.database) (hclean : NoHostBits deamon.database)
    (hstep : Step deamon label deamon') :
    NoHostBits deamon'.database ↔ ¬LeavesHostBits label.2 := by
  have hkeys' : KeysMatch deamon'.database := (outcome_simulated hstep hkeys).keysMatch hkeys
  rw [noHostBits_iff hkeys']
  rw [noHostBits_iff hkeys] at hclean
  constructor
  · rintro hafter ⟨key, entry, ifInfo, hbits, hlast, hmetric⟩
    have hactive := step_active_iff hkeys hbits (hclean key hbits) hstep
    exact hactive.mpr ⟨entry, ifInfo, hlast, hmetric⟩ (hafter key hbits)
  · intro hleaves key hbits
    by_contra hsome
    obtain ⟨entry, ifInfo, hlast, hmetric⟩ :=
      (step_active_iff hkeys hbits (hclean key hbits) hstep).mp hsome
    exact hleaves ⟨key, entry, ifInfo, hbits, hlast, hmetric⟩

/-- A step that is no response leaving a destination with host bits. -/
def MaskedStep (deamon : RipDeamon Driver) (label : Answers × DeamonEvent)
    (deamon' : RipDeamon Driver) : Prop :=
  Step deamon label deamon' ∧ ¬LeavesHostBits label.2

theorem run_masked {deamon deamon' : RipDeamon Driver} {labels : List (Answers × DeamonEvent)}
    (hinitial : Initial deamon) (hrun : Run MaskedStep deamon labels deamon') :
    KeysMatch deamon'.database ∧ NoHostBits deamon'.database := by
  induction hrun with
  | nil =>
      rw [hinitial.1]
      exact ⟨keysMatch_new, fun key route hroute => by simp [RipDatabase.new] at hroute⟩
  | snoc _ hstep ih =>
      obtain ⟨hkeys, hclean⟩ := ih
      refine ⟨(outcome_simulated hstep.1 hkeys).keysMatch hkeys, ?_⟩
      exact (step_noHostBits hkeys hclean hstep.1).mpr hstep.2

/-- While no response leaves a destination with host bits, no active route has
any and each network has one active route at most; the first response that does
leave one ends that. -/
theorem run_noHostBits {deamon deamon' : RipDeamon Driver}
    {labels : List (Answers × DeamonEvent)} (hinitial : Initial deamon)
    (hrun : Run MaskedStep deamon labels deamon') :
    NoHostBits deamon'.database ∧ OneRoutePerNetwork deamon'.database ∧
      ∀ label deamon'', Step deamon' label deamon'' →
        (NoHostBits deamon''.database ↔ ¬LeavesHostBits label.2) := by
  obtain ⟨hkeys, hclean⟩ := run_masked hinitial hrun
  exact ⟨hclean, oneRoutePerNetwork hkeys hclean, fun label deamon'' hstep =>
    step_noHostBits hkeys hclean hstep⟩

theorem learningEvents_masked {label : Answers × DeamonEvent} (h : label ∈ learningEvents) :
    ¬LeavesHostBits label.2 := by
  rintro ⟨key, entry, ifInfo, hbits, hlast, -⟩
  have hmem := List.mem_of_getLast? hlast
  simp only [learningEvents, List.mem_cons, List.not_mem_nil, or_false] at h
  rcases h with rfl | rfl
  · simp [DeamonEvent.heard] at hmem
  · rw [DeamonEvent.heard] at hmem
    split_ifs at hmem
    · obtain ⟨raw, hraw, hentry, hkey, -⟩ := mem_routeEntries_iff.mp hmem
      obtain rfl := List.mem_singleton.mp hraw
      obtain ⟨-, rfl⟩ := responseEntryToRoute_eq hentry
      exact hbits (by rw [← hkey]; rfl)
    · simp at hmem

theorem learningEvents_noHostBits :
    ∃ deamon', Run MaskedStep learningDeamon learningEvents deamon' ∧
      NoHostBits deamon'.database ∧ deamon'.database.okRoutes.lookup farNetwork ≠ none := by
  have hany : (runEvents learningDeamon learningEvents).any (fun deamon =>
      (deamon.database.okRoutes.lookup farNetwork).isSome) = true := by decide +kernel
  obtain ⟨deamon', hrun, hactive⟩ := exists_run hany
  have hmasked : Run MaskedStep learningDeamon learningEvents deamon' :=
    hrun.mono fun label hlabel _ _ hstep => ⟨hstep, learningEvents_masked hlabel⟩
  exact ⟨deamon', hmasked, (run_noHostBits ⟨rfl, rfl⟩ hmasked).1,
    Option.ne_none_iff_isSome.mpr hactive⟩

/-- 10.2.0.1/255.255.0.0, the same network under another key -/
def farHost : RipRouteKey := { ipAddress := 0x0a020001, subnetMask := 0xffff0000 }

/-- A neighbour sends the network twice, once with a host bit. -/
def hostBitEvent : Answers × DeamonEvent :=
  (steady, .received
    (responseFrom neighbour eth1 [plainEntry farNetwork 1, plainEntry farHost 1]))

theorem hostBitEvent_learned_twice :
    ∃ deamon', Run Step learningDeamon [hostBitEvent] deamon' ∧
      ¬NoHostBits deamon'.database ∧ ¬OneRoutePerNetwork deamon'.database := by
  have hany : (runEvents learningDeamon [hostBitEvent]).any (fun deamon =>
      (deamon.database.okRoutes.lookup farNetwork).isSome &&
        (deamon.database.okRoutes.lookup farHost).any fun route =>
          route.ripEntry.ipAddress &&& ~~~route.ripEntry.subnetMask == 1) = true := by
    decide +kernel
  obtain ⟨deamon', hrun, hend⟩ := exists_run hany
  rw [Bool.and_eq_true, Option.any_eq_true] at hend
  obtain ⟨hnetwork, route, hhost, hbits⟩ := hend
  obtain ⟨route', hnetwork⟩ := Option.isSome_iff_exists.mp hnetwork
  refine ⟨deamon', hrun, fun hclean => ?_, fun hone => ?_⟩
  · rw [hclean farHost route hhost] at hbits
    exact absurd hbits (by decide)
  · have hsame : SameNetwork farNetwork farHost := by
      constructor <;> decide
    exact absurd (hone _ _ _ _ hnetwork hhost hsame) (by decide)

end RipV2.HostBits
