import RipV2.Address
import RipV2.HostEnvironment

namespace RipV2.LocalRoutes

open RipV2.Address
open RipV2.HostEnvironment
open RipV2.Packets
open RipV2.Results

/-- A network of the configuration, before anything of it was checked. -/
structure AdvertisedNetwork where
  address : String
  prefixLen : UInt32
  dev : String
deriving DecidableEq, Repr

structure LocalRoute where
  entry : RipEntry
  ifIndex : UInt32
  ifName : String
deriving DecidableEq, Repr

def afInet : UInt16 := 2

/-- Interface, prefix and address are checked in this order; the address is cut to its prefix. -/
def advertisedNetworkToLocalRoute (answers : Answers) (network : AdvertisedNetwork) :
    RipResult LocalRoute := do
  let ifIndex ← (answers.ifcNametoindex network.dev).mapError fun err =>
    .invalidConfiguration ("invalid dev: " ++ network.dev ++ ": " ++ err)
  let subnetMask ← prefixToMask network.prefixLen
  let ipAddress ← (ipv4FromStr network.address).mapError fun err =>
    .invalidConfiguration ("invalid address: " ++ network.address ++ ": " ++ err)
  let localEntry : RipEntry := {
    routingFamilyId := afInet
    routeTag := 0
    ipAddress := ipAddress &&& subnetMask
    subnetMask
    nextHop := 0
    metric := 1 }
  return { entry := localEntry, ifIndex, ifName := network.dev }

theorem advertisedNetworkToLocalRoute_ok {answers : Answers} {network : AdvertisedNetwork}
    {route : LocalRoute} (h : advertisedNetworkToLocalRoute answers network = .ok route) :
    ∃ ifIndex subnetMask ipAddress, answers.ifcNametoindex network.dev = .ok ifIndex ∧
      prefixToMask network.prefixLen = .ok subnetMask ∧
      ipv4FromStr network.address = .ok ipAddress ∧
      route = {
        entry := {
          routingFamilyId := afInet
          routeTag := 0
          ipAddress := ipAddress &&& subnetMask
          subnetMask
          nextHop := 0
          metric := 1 }
        ifIndex
        ifName := network.dev } := by
  rw [advertisedNetworkToLocalRoute] at h
  cases hindex : answers.ifcNametoindex network.dev with
  | error e => simp [hindex, Except.mapError, bind, Except.bind] at h
  | ok ifIndex =>
      cases hmask : prefixToMask network.prefixLen with
      | error e => simp [hindex, hmask, Except.mapError, bind, Except.bind] at h
      | ok subnetMask =>
          cases haddress : ipv4FromStr network.address with
          | error e => simp [hindex, hmask, haddress, Except.mapError, bind, Except.bind] at h
          | ok ipAddress =>
              simp only [hindex, hmask, haddress, Except.mapError, bind, Except.bind, pure,
                Except.pure, Except.ok.injEq] at h
              exact ⟨ifIndex, subnetMask, ipAddress, rfl, rfl, rfl, h.symm⟩

theorem advertisedNetworkToLocalRoute_entry {answers : Answers} {network : AdvertisedNetwork}
    {route : LocalRoute} (h : advertisedNetworkToLocalRoute answers network = .ok route) :
    route.entry.nextHop = 0 ∧ route.entry.metric = 1 ∧
      prefixToMask network.prefixLen = .ok route.entry.subnetMask := by
  obtain ⟨ifIndex, subnetMask, ipAddress, -, hmask, -, rfl⟩ := advertisedNetworkToLocalRoute_ok h
  exact ⟨rfl, rfl, hmask⟩

theorem advertisedNetworkToLocalRoute_masked {answers : Answers} {network : AdvertisedNetwork}
    {route : LocalRoute} (h : advertisedNetworkToLocalRoute answers network = .ok route) :
    route.entry.ipAddress &&& ~~~route.entry.subnetMask = 0 := by
  obtain ⟨ifIndex, subnetMask, ipAddress, -, -, -, rfl⟩ := advertisedNetworkToLocalRoute_ok h
  change ipAddress &&& subnetMask &&& ~~~subnetMask = 0
  rw [UInt32.and_assoc, UInt32.and_not_self, UInt32.and_zero]

end RipV2.LocalRoutes
