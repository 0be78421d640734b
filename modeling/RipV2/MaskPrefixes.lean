import RipV2.KernelRoutes

namespace RipV2.MaskPrefixes

open RipV2.Address
open RipV2.AdminInterface
open RipV2.Database
open RipV2.Deamon
open RipV2.DeamonRuns
open RipV2.HostEnvironment
open RipV2.KernelRoutes
open RipV2.ReachableRoutes
open RipV2.RoutingTables
open RipV2.TransitionRuns

/-- The admin view and the kernel are told the same prefix length, and it is
that of the route's mask. -/
structure OneNetwork (route : RipDbEntry) : Prop where
  prefixLen : ∀ state, (HttpRoute.fromDbEntry route state).prefixLen.toNat =
    (buildRouteMessage route).destinationPrefixLength.toNat
  subnetMask : ∀ state, prefixToMask (HttpRoute.fromDbEntry route state).prefixLen =
    .ok route.ripEntry.subnetMask

theorem prefixLen_eq {route : RipDbEntry} {p : Nat} (h : IsMaskOfLength p route.ripEntry.subnetMask)
    (state : String) : (HttpRoute.fromDbEntry route state).prefixLen.toNat = p := by
  have hle := h.1
  rw [HttpRoute.fromDbEntry, h.countOnes_eq, UInt32.toNat_ofNat']
  omega

theorem destinationPrefixLength_eq {route : RipDbEntry} {p : Nat}
    (h : IsMaskOfLength p route.ripEntry.subnetMask) :
    (buildRouteMessage route).destinationPrefixLength.toNat = p := by
  have hle := h.1
  rw [buildRouteMessage, h.leadingOnes_eq, UInt8.toNat_ofNat']
  omega

theorem oneNetwork_of_mask {route : RipDbEntry} {p : Nat}
    (h : IsMaskOfLength p route.ripEntry.subnetMask) : OneNetwork route := by
  constructor
  · intro state
    rw [prefixLen_eq h, destinationPrefixLength_eq h]
  · intro state
    apply prefixToMask_of_isMaskOfLength
    rwa [prefixLen_eq h]

theorem maskLength_of_keyed {key : RipRouteKey} {route : RipDbEntry}
    (hkeyed : buildRouteKey route.ripEntry = key) (h : ∃ p, IsMaskOfLength p key.subnetMask) :
    ∃ p, IsMaskOfLength p route.ripEntry.subnetMask := by
  subst hkeyed
  exact h

variable {Driver : Type} [RoutingTableDriver Driver]

theorem exists_maskLength_of_run {deamon deamon' : RipDeamon Driver}
    {labels : List (Answers × DeamonEvent)} (hinitial : Initial deamon)
    (hrun : Run Attempted deamon labels deamon') {route : RipDbEntry}
    (hroute : route ∈ deamon'.database.allRoutes) :
    ∃ p, IsMaskOfLength p route.ripEntry.subnetMask := by
  rcases RipDatabase.mem_allRoutes_iff.mp hroute with ⟨key, hactive⟩ | ⟨key, hgarbage⟩
  · have hwell := (run_wellFormed hinitial hrun key).active route hactive
    exact maskLength_of_keyed hwell.keyed hwell.contiguous
  · have hwell := (run_wellFormed hinitial hrun key).garbage route hgarbage
    exact maskLength_of_keyed hwell.keyed hwell.contiguous

/-- A received mask is valid exactly if it is that of a prefix from 1 to 31; and
whatever the daemon has gone through, each of its routes names one network. -/
theorem run_oneNetwork {deamon deamon' : RipDeamon Driver}
    {labels : List (Answers × DeamonEvent)} (hinitial : Initial deamon)
    (hrun : Run Attempted deamon labels deamon') :
    (∀ mask, isNetMaskValid mask = true ↔ ∃ prefixLen : UInt32,
      1 ≤ prefixLen ∧ prefixLen ≤ 31 ∧ prefixToMask prefixLen = .ok mask) ∧
    ∀ route ∈ deamon'.database.allRoutes, OneNetwork route := by
  refine ⟨fun mask => isNetMaskValid_iff_prefixToMask, fun route hroute => ?_⟩
  obtain ⟨p, hp⟩ := exists_maskLength_of_run hinitial hrun hroute
  exact oneNetwork_of_mask hp

theorem learningEvents_oneNetwork :
    ∃ deamon', Run Step learningDeamon learningEvents deamon' ∧
      deamon'.database.allRoutes.length = 2 ∧
      ∀ route ∈ deamon'.database.allRoutes, OneNetwork route := by
  have hany : (runEvents learningDeamon learningEvents).any (fun deamon =>
      deamon.database.allRoutes.length == 2) = true := by decide +kernel
  obtain ⟨deamon', hrun, hlength⟩ := exists_run hany
  exact ⟨deamon', hrun, by simpa using hlength,
    (run_oneNetwork ⟨rfl, rfl⟩ (run_attempted hrun)).2⟩

end RipV2.MaskPrefixes
