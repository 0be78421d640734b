import Mathlib.Combinatorics.SimpleGraph.Metric

namespace RipV2.HopDistance

variable {V : Type*} (G : SimpleGraph V)

/-- Infinite where no vertex of the set can be reached. -/
noncomputable def hops (sources : Set V) (v : V) : ℕ∞ :=
  sInf ((fun s => G.edist s v) '' sources)

variable {G} {sources : Set V} {u v s : V}

theorem hops_le_edist (hs : s ∈ sources) : hops G sources v ≤ G.edist s v :=
  sInf_le (Set.mem_image_of_mem _ hs)

theorem exists_edist_eq_hops (hsources : sources.Nonempty) :
    ∃ s ∈ sources, G.edist s v = hops G sources v :=
  csInf_mem (hsources.image _)

theorem hops_empty : hops G ∅ v = ⊤ := by
  rw [hops, Set.image_empty, sInf_empty]

theorem hops_eq_zero_iff : hops G sources v = 0 ↔ v ∈ sources := by
  constructor
  · intro hzero
    rcases sources.eq_empty_or_nonempty with rfl | hsources
    · simp [hops_empty] at hzero
    · obtain ⟨s, hs, hdistance⟩ := exists_edist_eq_hops (G := G) (v := v) hsources
      rw [hzero] at hdistance
      rwa [← SimpleGraph.edist_eq_zero_iff.mp hdistance]
  · intro hv
    have hle := hops_le_edist (G := G) (v := v) hv
    rwa [SimpleGraph.edist_self, nonpos_iff_eq_zero] at hle

theorem edist_le_add_one (h : G.Adj u v ∨ u = v) : G.edist s v ≤ G.edist s u + 1 := by
  calc G.edist s v ≤ G.edist s u + G.edist u v := SimpleGraph.edist_triangle
    _ ≤ G.edist s u + 1 := by
        gcongr
        exact SimpleGraph.edist_le_one_iff_adj_or_eq.mpr h

theorem hops_le_add_one (sources : Set V) (h : G.Adj u v ∨ u = v) :
    hops G sources v ≤ hops G sources u + 1 := by
  rcases sources.eq_empty_or_nonempty with rfl | hsources
  · simp [hops_empty]
  · obtain ⟨s, hs, hdistance⟩ := exists_edist_eq_hops (G := G) (v := u) hsources
    rw [← hdistance]
    exact (hops_le_edist hs).trans (edist_le_add_one h)

theorem exists_adj_hops {n : ℕ} (h : hops G sources v = (n + 1 : ℕ)) :
    ∃ u, G.Adj u v ∧ hops G sources u = n := by
  have hsources : sources.Nonempty := by
    by_contra hempty
    rw [Set.not_nonempty_iff_eq_empty.mp hempty, hops_empty] at h
    exact absurd h (ENat.top_ne_natCast _)
  obtain ⟨s, hs, hdistance⟩ := exists_edist_eq_hops (G := G) (v := v) hsources
  rw [h] at hdistance
  have hreachable : G.Reachable s v := by
    rw [← SimpleGraph.edist_ne_top_iff_reachable, hdistance]
    exact ENat.natCast_ne_top _
  obtain ⟨walk, hwalk⟩ := hreachable.exists_walk_length_eq_edist
  rw [hdistance, Nat.cast_inj] at hwalk
  have hnil : ¬walk.Nil := by
    rw [← SimpleGraph.Walk.length_eq_zero_iff]
    omega
  have hadj := walk.adj_penultimate hnil
  refine ⟨walk.penultimate, hadj, le_antisymm ?_ ?_⟩
  · refine (hops_le_edist hs).trans ((SimpleGraph.edist_le walk.dropLast).trans ?_)
    rw [SimpleGraph.Walk.length_dropLast, hwalk, Nat.add_sub_cancel]
  · have hle := hops_le_add_one sources (Or.inl hadj)
    rw [h, Nat.cast_add, Nat.cast_one] at hle
    exact (ENat.add_le_add_iff_right ENat.one_ne_top).mp hle

end RipV2.HopDistance
