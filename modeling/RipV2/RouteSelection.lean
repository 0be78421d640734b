import RipV2.FirstMinima
import RipV2.HeardSequences

namespace RipV2.RouteSelection

open List (argmin)
open RipV2.Database
open RipV2.Deamon
open RipV2.DeamonRuns
open RipV2.DestinationSlots
open RipV2.FirstMinima
open RipV2.HeardEntries
open RipV2.HeardSequences
open RipV2.HostEnvironment
open RipV2.KernelRoutes
open RipV2.Packets
open RipV2.ReachableRoutes
open RipV2.RoutingTables
open RipV2.TransitionRuns

/-- What a route comes to: its next hop, and its metric there. -/
structure Offer where
  nextHop : UInt32
  metric : UInt32
deriving DecidableEq

def Offer.distance (offer : Offer) : Nat :=
  offer.metric.toNat

/-- What counts of an entry in the selection. -/
def offerOf (entry : RipEntry) : Offer where
  nextHop := entry.nextHop
  metric := entry.metric

/-- The offer of the active route. -/
def standing (s : Slot) : Option Offer :=
  s.active.map fun route => offerOf route.ripEntry

/-- The offers that the entries make; an entry of infinite metric makes none. -/
def offers (entries : List (RipEntry × RipIfInfo)) : List Offer :=
  (entries.filter fun heard => heard.1.metric < ripInfinityMetric).map fun heard =>
    offerOf heard.1

theorem offers_append (entries entries' : List (RipEntry × RipIfInfo)) :
    offers (entries ++ entries') = offers entries ++ offers entries' := by
  rw [offers, List.filter_append, List.map_append]
  rfl

/-- The active route, if there is one, has another next hop. -/
def NotVia (nextHop : UInt32) (s : Slot) : Prop :=
  ∀ route, s.active = some route → route.ripEntry.nextHop ≠ nextHop

theorem standing_hear {s : Slot} {entry : RipEntry} (h : NotVia entry.nextHop s) (now : Instant)
    (ifInfo : RipIfInfo) : standing (s.hear now entry ifInfo) =
      argmin Offer.distance ((standing s).toList ++ offers [(entry, ifInfo)]) := by
  have hother : ∀ {old}, s.active = some old → routeIsFromCurrentNextHop old entry ≠ true := by
    intro old hactive hhop
    exact h old hactive (beq_iff_eq.mp hhop)
  rw [Slot.hear, standing]
  cases hverdict : verdict s.active entry ifInfo with
  | ignore =>
      rcases verdict_ignore hverdict with ⟨hactive, hmetric⟩ | ⟨old, hactive, -, hworse⟩
      · have hnone : offers [(entry, ifInfo)] = [] := by
          simp [offers, UInt32.not_lt.mpr hmetric]
        simp [standing, hactive, hnone]
      · by_cases hmetric : entry.metric < ripInfinityMetric
        · have hsome : offers [(entry, ifInfo)] = [offerOf entry] := by simp [offers, hmetric]
          have hnot : ¬(offerOf entry).distance < (offerOf old.ripEntry).distance := by
            have hle := UInt32.le_iff_toNat_le.mp (hworse hmetric)
            exact Nat.not_lt.mpr hle
          rw [standing, hactive, hsome, List.argmin_concat]
          simp [hnot]
        · have hnone : offers [(entry, ifInfo)] = [] := by simp [offers, hmetric]
          simp [standing, hactive, hnone]
  | refresh old =>
      obtain ⟨hactive, -, rfl, -⟩ := verdict_refresh hverdict
      exact absurd (beq_self_eq_true _) (hother hactive)
  | learn =>
      obtain ⟨hactive, hmetric⟩ := verdict_learn hverdict
      simp [standing, hactive, offers, hmetric, learnedRoute]
  | update old =>
      obtain ⟨hactive, -, hhop⟩ := verdict_update hverdict
      exact absurd hhop (hother hactive)
  | switch old =>
      obtain ⟨hactive, hmetric, hbetter, -⟩ := verdict_switch hverdict
      have hsome : offers [(entry, ifInfo)] = [offerOf entry] := by simp [offers, hmetric]
      have hlt : (offerOf entry).distance < (offerOf old.ripEntry).distance :=
        UInt32.lt_iff_toNat_lt.mp hbetter
      rw [standing, hactive, hsome, List.argmin_concat]
      simp [hlt, learnedRoute]
  | poison old =>
      obtain ⟨hactive, -, hhop⟩ := verdict_poison hverdict
      exact absurd hhop (hother hactive)

theorem NotVia.hear {nextHop : UInt32} {s : Slot} {entry : RipEntry} (h : NotVia nextHop s)
    (hentry : entry.nextHop ≠ nextHop) (now : Instant) (ifInfo : RipIfInfo) :
    NotVia nextHop (s.hear now entry ifInfo) := by
  intro route hactive
  rcases active_hear hactive with ⟨old, hold, hsame⟩ | ⟨rfl, -⟩
  · rw [hsame.ripEntry]
    exact h old hold
  · exact hentry

/-- The entries come from neighbours that differ from each other and from the next hop
of the active route. -/
structure FromOthers (s : Slot) (entries : List (RipEntry × RipIfInfo)) : Prop where
  distinct : (entries.map fun heard => heard.1.nextHop).Nodup
  notVia : ∀ heard ∈ entries, NotVia heard.1.nextHop s

theorem FromOthers.tail {s : Slot} {entry : RipEntry} {ifInfo : RipIfInfo}
    {entries : List (RipEntry × RipIfInfo)} (h : FromOthers s ((entry, ifInfo) :: entries))
    (now : Instant) : FromOthers (s.hear now entry ifInfo) entries := by
  obtain ⟨hdistinct, hnotVia⟩ := h
  rw [List.map_cons, List.nodup_cons] at hdistinct
  refine ⟨hdistinct.2, fun heard hmem => ?_⟩
  refine (hnotVia heard (by simp [hmem])).hear ?_ now ifInfo
  intro hsame
  apply hdistinct.1
  rw [hsame]
  exact List.mem_map_of_mem hmem

theorem FromOthers.perm {s : Slot} {entries entries' : List (RipEntry × RipIfInfo)}
    (h : FromOthers s entries) (hperm : entries.Perm entries') : FromOthers s entries' where
  distinct := (hperm.map _).nodup_iff.mp h.distinct
  notVia heard hmem := h.notVia heard (hperm.mem_iff.mpr hmem)

theorem FromOthers.append_left {s : Slot} {entries entries' : List (RipEntry × RipIfInfo)}
    (h : FromOthers s (entries ++ entries')) : FromOthers s entries := by
  obtain ⟨hdistinct, hnotVia⟩ := h
  rw [List.map_append] at hdistinct
  exact ⟨hdistinct.of_append_left, fun heard hmem => hnotVia heard (List.mem_append_left _ hmem)⟩

theorem FromOthers.append_right {s t : Slot} {entries entries' : List (RipEntry × RipIfInfo)}
    (h : FromOthers s (entries ++ entries')) (hhears : Hears s entries t) :
    FromOthers t entries' := by
  induction hhears with
  | nil s => exact h
  | cons now _ ih => exact ih (h.tail now)

/-- The first of the nearest offers stands, the current one before all others. -/
theorem standing_hears {s t : Slot} {entries : List (RipEntry × RipIfInfo)}
    (h : FromOthers s entries) (hhears : Hears s entries t) :
    standing t = argmin Offer.distance ((standing s).toList ++ offers entries) := by
  induction hhears with
  | nil s => cases hstanding : standing s <;> simp [offers]
  | @cons s t entry ifInfo entries now _ ih =>
      have hfirst := standing_hear (h.notVia (entry, ifInfo) (by simp)) now ifInfo
      have happend : offers ((entry, ifInfo) :: entries) =
          offers [(entry, ifInfo)] ++ offers entries := offers_append [(entry, ifInfo)] entries
      rw [ih (h.tail now), hfirst, ← argmin_append, happend, List.append_assoc]

theorem FromOthers.conflicts {s : Slot} {entries : List (RipEntry × RipIfInfo)}
    (h : FromOthers s entries) : conflicts entries s = false := by
  induction entries generalizing s with
  | nil => rfl
  | cons heard entries ih =>
      obtain ⟨entry, ifInfo⟩ := heard
      have hrest := ih (h.tail 0)
      have hfirst : s.conflict entry ifInfo = false := by
        apply Slot.conflict_eq_false
        intro old hverdict
        obtain ⟨hactive, -, hhop⟩ := verdict_poison hverdict
        exact absurd (beq_iff_eq.mp hhop) (h.notVia (entry, ifInfo) (by simp) old hactive)
      rw [HeardEntries.conflicts] at hrest ⊢
      rw [meets, hfirst, hrest]
      rfl

/-- All that the labels have for `key`, in their order. -/
def heardIn (key : RipRouteKey) (labels : List (Answers × DeamonEvent)) :
    List (RipEntry × RipIfInfo) :=
  labels.flatMap fun label => label.2.heard key

/-- Responses, one after the other. -/
def Responses (labels : List (Answers × DeamonEvent)) : Prop :=
  ∀ label ∈ labels, ∃ packet, label.2 = .received packet ∧ accepted packet = true

/-- The events have no entry for any other destination. -/
def OnlyAbout (key : RipRouteKey) (labels : List (Answers × DeamonEvent)) : Prop :=
  ∀ label ∈ labels, ∀ other, other ≠ key → label.2.heard other = []

variable {Driver : Type} [RoutingTableDriver Driver]

theorem run_hears {deamon deamon' : RipDeamon Driver} {labels : List (Answers × DeamonEvent)}
    (hkeys : KeysMatch deamon.database) (hresponses : Responses labels)
    (hrun : Run Step deamon labels deamon') : KeysMatch deamon'.database ∧ ∀ key,
      Hears (slot deamon.database key) (heardIn key labels) (slot deamon'.database key) := by
  induction hrun with
  | nil => exact ⟨hkeys, fun key => .nil _⟩
  | @snoc labels deamon₁ deamon₂ label _ hstep ih =>
      obtain ⟨hkeys₁, hhears⟩ := ih fun other hmem => hresponses other (by simp [hmem])
      refine ⟨(outcome_simulated hstep hkeys₁).keysMatch hkeys₁, fun key => ?_⟩
      obtain ⟨answers, event⟩ := label
      obtain ⟨packet, rfl, -⟩ := hresponses (answers, event) (by simp)
      rw [heardIn, List.flatMap_append, List.flatMap_singleton]
      exact (hhears key).append ((step_received hkeys₁ hstep).1 key)

theorem exists_run_of_neverFails (hdriver : NeverFails Driver) {key : RipRouteKey}
    {labels : List (Answers × DeamonEvent)} {deamon : RipDeamon Driver}
    (hkeys : KeysMatch deamon.database) (hresponses : Responses labels)
    (honly : OnlyAbout key labels)
    (h : FromOthers (slot deamon.database key) (heardIn key labels)) :
    ∃ deamon', Run Step deamon labels deamon' := by
  induction labels generalizing deamon with
  | nil => exact ⟨deamon, .nil⟩
  | cons label labels ih =>
      obtain ⟨answers, event⟩ := label
      obtain ⟨packet, rfl, haccepted⟩ := hresponses (answers, event) (by simp)
      rw [heardIn, List.flatMap_cons] at h
      have hconflicts : ∀ other, HeardEntries.conflicts
          ((DeamonEvent.received packet).heard other) (slot deamon.database other) = false := by
        intro other
        by_cases hother : other = key
        · subst hother
          exact h.append_left.conflicts
        · rw [honly _ List.mem_cons_self other hother]
          rfl
      obtain ⟨deamon₁, hstep⟩ := exists_step hdriver hkeys haccepted hconflicts answers
      obtain ⟨deamon', hrest⟩ := ih ((outcome_simulated hstep hkeys).keysMatch hkeys)
        (fun other hmem => hresponses other (by simp [hmem]))
        (fun other hmem => honly other (by simp [hmem]))
        (h.append_right ((step_received hkeys hstep).1 key))
      exact ⟨deamon', (Run.single hstep).append hrest⟩

/-- Let other neighbours than the current next hop, each once, offer `key` their
routes in any order. Then the active route is the current one if none is nearer, and
else the first of the nearest; so how near it is does not depend on the order. An
order that the driver does not disturb is always handled to its end. -/
theorem run_selection {deamon₀ deamon : RipDeamon Driver}
    {history labels : List (Answers × DeamonEvent)} {key : RipRouteKey}
    (hinitial : Initial deamon₀) (hreached : Run Attempted deamon₀ history deamon)
    (hresponses : Responses labels)
    (hothers : FromOthers (slot deamon.database key) (heardIn key labels)) :
    (∀ labels' deamon', labels.Perm labels' → Run Step deamon labels' deamon' →
      standing (slot deamon'.database key) = argmin Offer.distance
        ((standing (slot deamon.database key)).toList ++ offers (heardIn key labels')) ∧
      (standing (slot deamon'.database key)).map Offer.distance =
        (argmin Offer.distance ((standing (slot deamon.database key)).toList ++
          offers (heardIn key labels))).map Offer.distance) ∧
    (NeverFails Driver → OnlyAbout key labels → ∀ labels', labels.Perm labels' →
      ∃ deamon', Run Step deamon labels' deamon') := by
  have hkeys := keysMatch_of_wellFormed (run_wellFormed hinitial hreached)
  have hperm : ∀ {labels'}, labels.Perm labels' →
      (heardIn key labels).Perm (heardIn key labels') := fun h => h.flatMap_right _
  have hresponses' : ∀ {labels'}, labels.Perm labels' → Responses labels' :=
    fun h label hmem => hresponses label (h.mem_iff.mpr hmem)
  constructor
  · intro labels' deamon' hlabels hrun
    have hchosen := standing_hears (hothers.perm (hperm hlabels))
      ((run_hears hkeys (hresponses' hlabels) hrun).2 key)
    refine ⟨hchosen, ?_⟩
    rw [hchosen]
    apply map_argmin_of_perm
    apply List.Perm.append_left
    exact (((hperm hlabels).symm.filter _).map _)
  · intro hdriver honly labels' hlabels
    exact exists_run_of_neverFails hdriver hkeys (hresponses' hlabels)
      (fun label hmem => honly label (hlabels.mem_iff.mpr hmem)) (hothers.perm (hperm hlabels))

/-- A neighbour announces the far network. -/
def offerFrom (source metric : UInt32) : Answers × DeamonEvent :=
  (steady, .received (responseFrom source eth1 [plainEntry farNetwork metric]))

theorem heard_offerFrom (source metric : UInt32) (other : RipRouteKey) (h : other ≠ farNetwork) :
    (offerFrom source metric).2.heard other = [] := by
  rw [offerFrom, DeamonEvent.heard]
  split_ifs
  · refine List.eq_nil_iff_forall_not_mem.mpr ?_
    rintro ⟨entry, ifInfo⟩ hmem
    obtain ⟨raw, hraw, hentry, hkey, -⟩ := mem_routeEntries_iff.mp hmem
    obtain rfl := List.mem_singleton.mp hraw
    rw [(responseEntryToRoute_eq hentry).2] at hkey
    exact h hkey.symm
  · rfl

/-- One neighbour has no route, and two have routes of the same length. -/
def offerEvents : List (Answers × DeamonEvent) :=
  [offerFrom 0x0a030003 16, offerFrom 0x0a030004 4, offerFrom 0x0a030005 4]

theorem offerEvents_selection :
    ∃ deamon deamon', Run Step learningDeamon [offerFrom neighbour 8] deamon ∧
      Run Step deamon offerEvents.reverse deamon' ∧
      standing (slot deamon'.database farNetwork) = some ⟨0x0a030005, 5⟩ := by
  have hany : (runEvents learningDeamon [offerFrom neighbour 8]).any (fun deamon =>
      standing (slot deamon.database farNetwork) == some ⟨neighbour, 9⟩) = true := by
    decide +kernel
  obtain ⟨deamon, hreached, hend⟩ := exists_run hany
  have hstanding := beq_iff_eq.mp hend
  have hothers : FromOthers (slot deamon.database farNetwork) (heardIn farNetwork offerEvents) := by
    refine ⟨by decide +kernel, fun heard hmem route hactive hsame => ?_⟩
    rw [standing, hactive, Option.map_some] at hstanding
    have hoffer : offerOf route.ripEntry = ⟨neighbour, 9⟩ := Option.some.inj hstanding
    have hhops : ∀ heard ∈ heardIn farNetwork offerEvents, heard.1.nextHop ≠ neighbour := by
      decide +kernel
    exact hhops heard hmem (hsame.symm.trans (congrArg Offer.nextHop hoffer))
  have hresponses : Responses offerEvents := by
    simp only [Responses, offerEvents, List.forall_mem_cons]
    exact ⟨⟨_, rfl, by decide⟩, ⟨_, rfl, by decide⟩, ⟨_, rfl, by decide⟩, by simp⟩
  have honly : OnlyAbout farNetwork offerEvents := by
    simp only [OnlyAbout, offerEvents, List.forall_mem_cons]
    exact ⟨heard_offerFrom _ _, heard_offerFrom _ _, heard_offerFrom _ _, by simp⟩
  have hselection := run_selection ⟨rfl, rfl⟩ (run_attempted hreached) hresponses hothers
  have hperm := offerEvents.reverse_perm.symm
  obtain ⟨deamon', hrun⟩ := hselection.2 kernel_neverFails honly _ hperm
  refine ⟨deamon, deamon', hreached, hrun, ?_⟩
  rw [(hselection.1 _ _ hperm hrun).1, hstanding]
  decide +kernel

end RipV2.RouteSelection
