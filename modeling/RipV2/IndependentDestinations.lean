import RipV2.DuplicateDelivery
import RipV2.MaskPrefixes
import RipV2.RouteOwners

namespace RipV2.IndependentDestinations

open RipV2.Address
open RipV2.Database
open RipV2.Deamon
open RipV2.Deamon.RipDeamon
open RipV2.DeamonRuns
open RipV2.DeamonSimulation
open RipV2.DestinationSlots
open RipV2.DriverFailures
open RipV2.DuplicateDelivery
open RipV2.GarbageTimers
open RipV2.HeardEntries
open RipV2.HeardSequences
open RipV2.HostEnvironment
open RipV2.KernelRoutes
open RipV2.MaskPrefixes
open RipV2.Packets
open RipV2.ReachableRoutes
open RipV2.Results
open RipV2.RouteLifecycle
open RipV2.RouteOwners
open RipV2.RoutingTables
open RipV2.TransitionRuns

def validEntries (key : RipRouteKey) (entries : List RipEntry) : List RipEntry :=
  entries.filter fun raw => isEntryValid raw && buildRouteKey raw == key

theorem routeEntries_eq (packet : RipPacket) (key : RipRouteKey) (entries : List RipEntry) :
    routeEntries packet key entries =
      (validEntries key entries).map fun raw => derived (packet, raw) := by
  induction entries with
  | nil => rfl
  | cons raw entries ih =>
      rw [routeEntries_cons, ih, routeEntries_singleton, validEntries, validEntries,
        List.filter_cons]
      split_ifs <;> rfl

theorem heard_congr {packet packet' : RipPacket} {key : RipRouteKey}
    (haccepted : accepted packet' = accepted packet) (hsource : packet'.source = packet.source)
    (hifInfo : packet'.ifInfo = packet.ifInfo)
    (hentries : validEntries key packet'.data.entries = validEntries key packet.data.entries) :
    (DeamonEvent.received packet').heard key = (DeamonEvent.received packet).heard key := by
  rw [DeamonEvent.heard, DeamonEvent.heard, haccepted, routeEntries_eq, routeEntries_eq, hentries]
  simp only [derived, hsource, hifInfo]

/-- The same outcome, up to the time of a route that has moved to garbage. -/
def SameUpToClock (entries : List (RipEntry × RipIfInfo)) (s t t' : Slot) : Prop :=
  t' = t ∨ (meets withdraws entries s = true ∧ untimed t' = untimed t)

theorem hears_unique {s t t' : Slot} {entries : List (RipEntry × RipIfInfo)}
    (h : meets withdraws entries s = false) (hhears : Hears s entries t)
    (hhears' : Hears s entries t') : t' = t := by
  induction hhears with
  | nil => exact hhears'.of_nil
  | @cons s t entry ifInfo entries now _ ih =>
      cases hhears' with
      | cons now' hrest =>
          rw [meets_cons withdraws_similar s now, Bool.or_eq_false_iff] at h
          have hnot : ∀ old, verdict s.active entry ifInfo ≠ .poison old := by
            intro old hverdict
            rw [withdraws, hverdict] at h
            simp at h
          rw [hear_now hnot now' now] at hrest
          exact ih h.2 hrest

theorem hears_sameUpToClock {s t t' : Slot} {entries : List (RipEntry × RipIfInfo)}
    (hhears : Hears s entries t) (hhears' : Hears s entries t') :
    SameUpToClock entries s t t' := by
  cases hwithdraws : meets withdraws entries s with
  | false => exact .inl (hears_unique hwithdraws hhears hhears')
  | true => exact .inr ⟨hwithdraws, untimed_hears rfl hhears' hhears⟩

theorem SameUpToClock.active {entries : List (RipEntry × RipIfInfo)} {s t t' : Slot}
    (h : SameUpToClock entries s t t') : t'.active = t.active := by
  rcases h with rfl | ⟨-, huntimed⟩
  · rfl
  · exact (similar_of_untimed huntimed).active

/-- The message is about the network of `key`. -/
def Concerns (key : RipRouteKey) (message : RouteMessage) : Prop :=
  message.destination = key.ipAddress ∧
    IsMaskOfLength message.destinationPrefixLength.toNat key.subnetMask

variable {Driver : Type} [KernelDriver Driver]

theorem mem_kernelRoutes_iff {deamon : RipDeamon Driver}
    (hwell : ∀ key, WellFormed key (slot deamon.database key)) (hagrees : Agrees deamon)
    {key : RipRouteKey} {message : RouteMessage} (hconcerns : Concerns key message) :
    message ∈ kernelRoutes deamon ↔ message? (slot deamon.database key) = some message := by
  rw [hagrees message]
  constructor
  · rintro ⟨other, hother⟩
    obtain ⟨route, hactive, -, rfl⟩ := message_eq hother
    have hroute := (hwell other).active route hactive
    obtain ⟨p, hp⟩ := maskLength_of_keyed hroute.keyed hroute.contiguous
    obtain ⟨hdestination, hmask⟩ := hconcerns
    rw [destinationPrefixLength_eq hp] at hmask
    have hsame : key = other := by
      rw [← hroute.keyed]
      obtain ⟨ipAddress, subnetMask⟩ := key
      rw [buildRouteKey, RipRouteKey.mk.injEq]
      exact ⟨hdestination.symm, (hmask.eq_iff hp).mpr rfl⟩
    rw [hsame]
    exact hother
  · exact fun hmessage => ⟨key, hmessage⟩

/-- A daemon that may have gone through anything since it started with an empty
kernel. -/
def Reachable (deamon : RipDeamon Driver) : Prop :=
  ∃ deamon₀ history, Initial deamon₀ ∧ kernelRoutes deamon₀ = ∅ ∧
    Run Attempted deamon₀ history deamon

theorem Reachable.step {deamon deamon' : RipDeamon Driver} {label : Answers × DeamonEvent}
    (h : Reachable deamon) (hstep : Step deamon label deamon') : Reachable deamon' := by
  obtain ⟨deamon₀, history, hinitial, hkernel, hrun⟩ := h
  exact ⟨deamon₀, history ++ [label], hinitial, hkernel, hrun.snoc (attempted_of_step hstep)⟩

theorem Reachable.wellFormed {deamon : RipDeamon Driver} (h : Reachable deamon)
    (key : RipRouteKey) : WellFormed key (slot deamon.database key) := by
  obtain ⟨deamon₀, history, hinitial, -, hrun⟩ := h
  exact run_wellFormed hinitial hrun key

theorem Reachable.agrees {deamon : RipDeamon Driver} (hdriver : NeverFails Driver)
    (h : Reachable deamon) : Agrees deamon := by
  obtain ⟨deamon₀, history, hinitial, hkernel, hrun⟩ := h
  exact run_agrees_of_neverFails hdriver hinitial hkernel hrun

omit [KernelDriver Driver] in
theorem handlePacket_run_of_response [RoutingTableDriver Driver] {packet : RipPacket}
    (h : packet.isResponse = true) (deamon : RipDeamon Driver) :
    (handlePacket packet).run deamon =
      if packet.data.header.version ≠ rip2Version then .error .malformedPacket deamon
      else if packet.source.port ≠ ripUdpPort then .ok () deamon
      else (packet.data.entries.forM (handleResponseEntry packet)).run deamon := by
  rw [handlePacket, RipPacket.isRequest_eq_false_of_isResponse h, h, handleResponsePacket]
  by_cases hversion : packet.data.header.version = rip2Version
  · by_cases hport : packet.source.port = ripUdpPort
    · simp [hversion, hport]
    · simp [hversion, hport]
  · simp [hversion]

omit [KernelDriver Driver] in
theorem accepted_of_step [RoutingTableDriver Driver] {deamon deamon' : RipDeamon Driver}
    {answers : Answers} {packet : RipPacket} (hresponse : packet.isResponse = true)
    (hstep : Step deamon (answers, .received packet) deamon') :
    packet.data.header.version = rip2Version ∧
      accepted packet = (packet.source.port == ripUdpPort) := by
  obtain ⟨deamon₀, -, hrun⟩ := hstep
  change (handlePacket packet).run deamon₀ = _ at hrun
  rw [handlePacket_run_of_response hresponse] at hrun
  split_ifs at hrun with hversion
  · rw [not_not] at hversion
    exact ⟨hversion, by simp [accepted, hresponse, hversion]⟩
  · rw [not_not] at hversion
    exact ⟨hversion, by simp [accepted, hresponse, hversion]⟩

/-- The packet with other entries. -/
def withEntries (packet : RipPacket) (entries : List RipEntry) : RipPacket :=
  { packet with data := { packet.data with entries } }

theorem exists_step_withEntries (hdriver : NeverFails Driver) {deamon deamon' : RipDeamon Driver}
    {answers : Answers} {packet : RipPacket} {entries : List RipEntry}
    (hkeys : KeysMatch deamon.database) (hresponse : packet.isResponse = true)
    (hheard : ∀ key, (DeamonEvent.received (withEntries packet entries)).heard key =
      (DeamonEvent.received packet).heard key)
    (hstep : Step deamon (answers, .received packet) deamon') (answers' : Answers) :
    ∃ deamon'', Step deamon (answers', .received (withEntries packet entries)) deamon'' := by
  have hversion := (accepted_of_step hresponse hstep).1
  have hconflicts := step_conflicts hdriver hkeys hstep
  by_cases hport : packet.source.port = ripUdpPort
  · have haccepted : accepted (withEntries packet entries) = true := by
      simp only [accepted, Bool.and_eq_true, beq_iff_eq]
      exact ⟨⟨hresponse, hversion⟩, hport⟩
    exact exists_step hdriver hkeys haccepted (fun key => by rw [hheard, hconflicts]) answers'
  · have hresponse' : (withEntries packet entries).isResponse = true := hresponse
    have hversion' : (withEntries packet entries).data.header.version = rip2Version := hversion
    have hport' : (withEntries packet entries).source.port ≠ ripUdpPort := hport
    have hrun := handlePacket_run_of_response hresponse'
      { deamon with host := deamon.host.renew answers' }
    rw [if_neg (not_not.mpr hversion'), if_pos hport'] at hrun
    exact ⟨_, _, ⟨deamon.database, .refl _, rfl⟩, hrun⟩

/-- The same outcome at one destination, in the database and in the kernel. -/
structure SameAt (key : RipRouteKey) (entries : List (RipEntry × RipIfInfo))
    (deamon deamon' deamon'' : RipDeamon Driver) : Prop where
  slot : SameUpToClock entries (slot deamon.database key) (slot deamon'.database key)
    (slot deamon''.database key)
  kernel : ∀ message, Concerns key message →
    (message ∈ kernelRoutes deamon'' ↔ message ∈ kernelRoutes deamon')

theorem sameAt_of_hears (hdriver : NeverFails Driver) {deamon deamon' deamon'' : RipDeamon Driver}
    {key : RipRouteKey} {entries : List (RipEntry × RipIfInfo)} (h' : Reachable deamon')
    (h'' : Reachable deamon'') (hslot : SameUpToClock entries (slot deamon.database key)
      (slot deamon'.database key) (slot deamon''.database key)) :
    SameAt key entries deamon deamon' deamon'' := by
  refine ⟨hslot, fun message hconcerns => ?_⟩
  rw [mem_kernelRoutes_iff h''.wellFormed (h''.agrees hdriver) hconcerns,
    mem_kernelRoutes_iff h'.wellFormed (h'.agrees hdriver) hconcerns, message?, message?,
    hslot.active]

theorem step_sameAt (hdriver : NeverFails Driver) {deamon deamon' other other' : RipDeamon Driver}
    {answers answers' : Answers} {packet packet' : RipPacket} {key : RipRouteKey}
    (hreachable : Reachable deamon) (hother : Reachable other)
    (hresponse : packet.isResponse = true) (hresponse' : packet'.isResponse = true)
    (hstep : Step deamon (answers, .received packet) deamon')
    (hstep' : Step other (answers', .received packet') other')
    (hsource : packet'.source = packet.source) (hifInfo : packet'.ifInfo = packet.ifInfo)
    (hentries : validEntries key packet'.data.entries = validEntries key packet.data.entries)
    (hslot : slot other.database key = slot deamon.database key) :
    SameAt key ((DeamonEvent.received packet).heard key) deamon deamon' other' := by
  have haccepted : accepted packet' = accepted packet := by
    rw [(accepted_of_step hresponse' hstep').2, (accepted_of_step hresponse hstep).2, hsource]
  have hheard := (step_received (keysMatch_of_wellFormed hreachable.wellFormed) hstep).1 key
  have hheard' := (step_received (keysMatch_of_wellFormed hother.wellFormed) hstep').1 key
  rw [heard_congr haccepted hsource hifInfo hentries, hslot] at hheard'
  exact sameAt_of_hears hdriver (hreachable.step hstep) (hother.step hstep')
    (hears_sameUpToClock hheard hheard')

theorem step_withEntries (hdriver : NeverFails Driver)
    {deamon deamon' deamon'' : RipDeamon Driver} {answers answers' : Answers} {packet : RipPacket}
    {entries : List RipEntry} (hreachable : Reachable deamon)
    (hheard : ∀ key, (DeamonEvent.received (withEntries packet entries)).heard key =
      (DeamonEvent.received packet).heard key)
    (hstep : Step deamon (answers, .received packet) deamon')
    (hstep' : Step deamon (answers', .received (withEntries packet entries)) deamon'') :
    (∀ key, SameUpToClock ((DeamonEvent.received packet).heard key) (slot deamon.database key)
      (slot deamon'.database key) (slot deamon''.database key)) ∧
    deamon''.database.anyRouteChanged = deamon'.database.anyRouteChanged ∧
    kernelRoutes deamon'' = kernelRoutes deamon' := by
  have hkeys := keysMatch_of_wellFormed hreachable.wellFormed
  obtain ⟨hhears, hflag⟩ := step_received hkeys hstep
  obtain ⟨hhears', hflag'⟩ := step_received hkeys hstep'
  simp only [hheard] at hhears' hflag'
  have hslots := fun key => hears_sameUpToClock (hhears key) (hhears' key)
  refine ⟨hslots, ?_, ?_⟩
  · rw [Bool.eq_iff_iff, hflag, hflag']
  · exact kernelRoutes_eq ((hreachable.step hstep).agrees hdriver)
      ((hreachable.step hstep').agrees hdriver) fun key => (hslots key).active

theorem step_unnamed (hdriver : NeverFails Driver) {deamon deamon' : RipDeamon Driver}
    {answers : Answers} {packet : RipPacket} {key : RipRouteKey} (hreachable : Reachable deamon)
    (hstep : Step deamon (answers, .received packet) deamon')
    (hnone : validEntries key packet.data.entries = []) :
    slot deamon'.database key = slot deamon.database key ∧
      ∀ message, Concerns key message →
        (message ∈ kernelRoutes deamon' ↔ message ∈ kernelRoutes deamon) := by
  have hheard := (step_received (keysMatch_of_wellFormed hreachable.wellFormed) hstep).1 key
  have hnil : (DeamonEvent.received packet).heard key = [] := by
    rw [DeamonEvent.heard, routeEntries_eq, hnone]
    split_ifs <;> rfl
  rw [hnil] at hheard
  have hsame : SameUpToClock [] (slot deamon.database key) (slot deamon.database key)
      (slot deamon'.database key) := .inl hheard.of_nil
  exact ⟨hheard.of_nil, (sameAt_of_hears hdriver hreachable (hreachable.step hstep) hsame).kernel⟩

omit [KernelDriver Driver] in
theorem resumes_of_otherPort [RoutingTableDriver Driver] {deamon deamon' : RipDeamon Driver}
    {answers : Answers} {packet : RipPacket} (hresponse : packet.isResponse = true)
    (hport : packet.source.port ≠ ripUdpPort)
    (hstep : Step deamon (answers, .received packet) deamon') : Resumes answers deamon deamon' := by
  have hversion := (accepted_of_step hresponse hstep).1
  obtain ⟨deamon₀, hresumes, hrun⟩ := hstep
  change (handlePacket packet).run deamon₀ = _ at hrun
  rw [handlePacket_run_of_response hresponse, if_neg (not_not.mpr hversion), if_pos hport] at hrun
  obtain ⟨-, rfl⟩ := EStateM.Result.ok.inj hrun
  exact hresumes

/-- What a handled response makes of a destination is determined by the destination
before, the sender, the interface and the valid entries for it. So invalid entries
have no effect, nor has the order between entries for different destinations; a
destination without valid entries stays as it is; and a response from another port
has no effect at all. -/
theorem step_independent (hdriver : NeverFails Driver) {deamon deamon' : RipDeamon Driver}
    {answers : Answers} {packet : RipPacket} (hreachable : Reachable deamon)
    (hresponse : packet.isResponse = true)
    (hstep : Step deamon (answers, .received packet) deamon') :
    (∀ other other' answers' packet' key, Reachable other → packet'.isResponse = true →
      Step other (answers', .received packet') other' → packet'.source = packet.source →
      packet'.ifInfo = packet.ifInfo →
      validEntries key packet'.data.entries = validEntries key packet.data.entries →
      slot other.database key = slot deamon.database key →
      SameAt key ((DeamonEvent.received packet).heard key) deamon deamon' other') ∧
    (∀ answers' entries, (∀ key, validEntries key entries =
        validEntries key packet.data.entries) →
      (∃ deamon'', Step deamon (answers', .received (withEntries packet entries)) deamon'') ∧
      ∀ deamon'', Step deamon (answers', .received (withEntries packet entries)) deamon'' →
        (∀ key, SameUpToClock ((DeamonEvent.received packet).heard key)
          (slot deamon.database key) (slot deamon'.database key) (slot deamon''.database key)) ∧
        deamon''.database.anyRouteChanged = deamon'.database.anyRouteChanged ∧
        kernelRoutes deamon'' = kernelRoutes deamon') ∧
    (∀ key, validEntries key packet.data.entries = [] →
      slot deamon'.database key = slot deamon.database key ∧
      ∀ message, Concerns key message →
        (message ∈ kernelRoutes deamon' ↔ message ∈ kernelRoutes deamon)) ∧
    (packet.source.port ≠ ripUdpPort → Resumes answers deamon deamon') := by
  refine ⟨?_, ?_, ?_, ?_⟩
  · intro other other' answers' packet' key hother hresponse' hstep' hsource hifInfo hentries hslot
    exact step_sameAt hdriver hreachable hother hresponse hresponse' hstep hstep' hsource hifInfo
      hentries hslot
  · intro answers' entries hentries
    have hheard : ∀ key, (DeamonEvent.received (withEntries packet entries)).heard key =
        (DeamonEvent.received packet).heard key := fun key =>
      heard_congr rfl rfl rfl (hentries key)
    have hkeys := keysMatch_of_wellFormed hreachable.wellFormed
    constructor
    · exact exists_step_withEntries hdriver hkeys hresponse hheard hstep answers'
    · intro deamon'' hstep'
      exact step_withEntries hdriver hreachable hheard hstep hstep'
  · intro key hnone
    exact step_unnamed hdriver hreachable hstep hnone
  · intro hport
    exact resumes_of_otherPort hresponse hport hstep

/-- Two networks, and one of them again with a metric that is not valid. -/
def mixedResponse : RipPacket :=
  responseFrom neighbour eth1 [plainEntry nearNetwork 1, plainEntry farNetwork 0,
    plainEntry farNetwork 1]

def reorderedEntries : List RipEntry :=
  [plainEntry farNetwork 1, plainEntry nearNetwork 1]

theorem validEntries_reordered (key : RipRouteKey) :
    validEntries key reorderedEntries = validEntries key mixedResponse.data.entries := by
  have hnear : isEntryValid (plainEntry nearNetwork 1) = true := by decide +kernel
  have hfar : isEntryValid (plainEntry farNetwork 1) = true := by decide +kernel
  have hinvalid : isEntryValid (plainEntry farNetwork 0) = false := by decide +kernel
  simp only [validEntries, reorderedEntries, mixedResponse, responseFrom, List.filter_cons, hnear,
    hfar, hinvalid, Bool.true_and, Bool.false_and]
  by_cases hkey : buildRouteKey (plainEntry nearNetwork 1) = key
  · have hother : buildRouteKey (plainEntry farNetwork 1) ≠ key := by
      rw [← hkey]
      decide +kernel
    simp [hkey, hother]
  · simp [hkey]

theorem mixedResponse_independent :
    ∃ deamon' deamon'', Step willingDeamon (steady, .received mixedResponse) deamon' ∧
      Step willingDeamon (steady, .received (withEntries mixedResponse reorderedEntries))
        deamon'' ∧
      kernelRoutes deamon' ≠ ∅ ∧ kernelRoutes deamon'' = kernelRoutes deamon' := by
  have hany : (runEvents willingDeamon [(steady, .received mixedResponse)]).any (fun deamon =>
      kernelRoutes deamon != ∅) = true := by decide +kernel
  obtain ⟨deamon', hevents, hroutes⟩ := (Option.any_eq_true _ _).mp hany
  have hstep := runEvents_single hevents
  have hreachable : Reachable willingDeamon := ⟨willingDeamon, [], ⟨rfl, rfl⟩, rfl, .nil⟩
  obtain ⟨-, hreordered, -⟩ :=
    step_independent willingKernel_neverFails hreachable (by decide) hstep
  obtain ⟨⟨deamon'', hstep''⟩, hsame⟩ :=
    hreordered steady reorderedEntries validEntries_reordered
  exact ⟨deamon', deamon'', hstep, hstep'', bne_iff_ne.mp hroutes, (hsame deamon'' hstep'').2.2⟩

end RipV2.IndependentDestinations
