import Mathlib.Data.List.AList

/-!
Hash maps with distinct keys. The order of the entries stands for the order in
which the map is iterated; two maps that differ in it only are `Reordered`.
-/

namespace RipV2.HashMapModel

/-- A hash map is its entries in their iteration order, with no key twice. -/
structure HashMap (K V : Type) where
  alist : AList fun _ : K => V

namespace HashMap

variable {K V : Type}

def empty : HashMap K V := ⟨∅⟩

/-- The entries in iteration order. -/
def entries (m : HashMap K V) : List (K × V) :=
  m.alist.entries.map fun entry => (entry.1, entry.2)

/-- The values in iteration order. -/
def values (m : HashMap K V) : List V :=
  m.entries.map Prod.snd

/-- Apply a function to every value, as a loop over `values_mut` does. -/
def mapValues (f : V → V) (m : HashMap K V) : HashMap K V where
  alist := {
    entries := m.alist.entries.map fun entry => ⟨entry.1, f entry.2⟩
    nodupKeys := by
      have h := m.alist.nodupKeys
      rw [List.NodupKeys, List.keys] at h ⊢
      simpa [Function.comp_def] using h }

/-- The same map under another iteration order. -/
def Reordered (m m' : HashMap K V) : Prop :=
  m.entries.Perm m'.entries

theorem Reordered.refl (m : HashMap K V) : Reordered m m :=
  List.Perm.refl _

theorem Reordered.perm_values {m m' : HashMap K V} (h : Reordered m m') :
    m.values.Perm m'.values :=
  h.map _

theorem nodup_keys (m : HashMap K V) : (m.entries.map Prod.fst).Nodup := by
  have h := m.alist.nodupKeys
  rw [List.NodupKeys, List.keys] at h
  simpa [entries, Function.comp_def] using h

theorem mapValues_entries (f : V → V) (m : HashMap K V) :
    (mapValues f m).entries = m.entries.map fun entry => (entry.1, f entry.2) := by
  simp [mapValues, entries, Function.comp_def]

variable [DecidableEq K]

def lookup (k : K) (m : HashMap K V) : Option V :=
  m.alist.lookup k

/-- Whatever the key had before is erased. -/
def insert (k : K) (v : V) (m : HashMap K V) : HashMap K V :=
  ⟨m.alist.insert k v⟩

def erase (k : K) (m : HashMap K V) : HashMap K V :=
  ⟨m.alist.erase k⟩

/-- Erase a list of keys one after the other. -/
def eraseAll (ks : List K) (m : HashMap K V) : HashMap K V :=
  ks.foldl (fun m k => m.erase k) m

@[simp] theorem lookup_empty (k : K) : (empty : HashMap K V).lookup k = none := rfl

theorem mem_entries_iff {m : HashMap K V} {k : K} {v : V} :
    (k, v) ∈ m.entries ↔ m.lookup k = some v := by
  have h : m.lookup k = some v ↔ (⟨k, v⟩ : Sigma fun _ : K => V) ∈ m.alist.entries :=
    AList.mem_lookup_iff
  rw [h, entries, List.mem_map]
  constructor
  · rintro ⟨⟨k', v'⟩, hmem, heq⟩
    simp only [Prod.mk.injEq] at heq
    obtain ⟨rfl, rfl⟩ := heq
    exact hmem
  · exact fun hmem => ⟨⟨k, v⟩, hmem, rfl⟩

theorem Reordered.lookup_eq {m m' : HashMap K V} (h : Reordered m m') (k : K) :
    m.lookup k = m'.lookup k := by
  apply Option.ext
  intro v
  rw [← mem_entries_iff, ← mem_entries_iff]
  exact h.mem_iff

theorem mem_values_iff {m : HashMap K V} {v : V} :
    v ∈ m.values ↔ ∃ k, m.lookup k = some v := by
  simp only [values, List.mem_map]
  constructor
  · rintro ⟨⟨k, w⟩, hmem, rfl⟩
    exact ⟨k, mem_entries_iff.mp hmem⟩
  · rintro ⟨k, hk⟩
    exact ⟨(k, v), mem_entries_iff.mpr hk, rfl⟩

theorem values_eq_nil {m : HashMap K V} (h : ∀ k, m.lookup k = none) : m.values = [] := by
  rw [List.eq_nil_iff_forall_not_mem]
  intro v hv
  obtain ⟨k, hk⟩ := mem_values_iff.mp hv
  rw [h k] at hk
  exact absurd hk (by simp)

theorem values_eq_singleton {m : HashMap K V} {k : K} {v : V} (hk : m.lookup k = some v)
    (hother : ∀ k', k' ≠ k → m.lookup k' = none) : m.values = [v] := by
  have hperm : m.entries.Perm [(k, v)] := by
    refine (List.perm_ext_iff_of_nodup (List.Nodup.of_map _ m.nodup_keys)
      (List.nodup_singleton _)).mpr ?_
    rintro ⟨k', v'⟩
    rw [mem_entries_iff, List.mem_singleton, Prod.mk.injEq]
    constructor
    · intro hk'
      by_cases hsame : k' = k
      · subst hsame
        exact ⟨rfl, Option.some.inj (hk'.symm.trans hk)⟩
      · rw [hother k' hsame] at hk'
        exact absurd hk' (by simp)
    · rintro ⟨rfl, rfl⟩
      exact hk
  rw [values, List.perm_singleton.mp hperm]
  rfl

@[simp] theorem lookup_mapValues (f : V → V) (m : HashMap K V) (k : K) :
    (mapValues f m).lookup k = (m.lookup k).map f := by
  apply Option.ext
  intro v
  rw [← mem_entries_iff, mapValues_entries, List.mem_map, Option.map_eq_some_iff]
  constructor
  · rintro ⟨⟨k', w⟩, hmem, heq⟩
    simp only [Prod.mk.injEq] at heq
    obtain ⟨rfl, rfl⟩ := heq
    exact ⟨w, mem_entries_iff.mp hmem, rfl⟩
  · rintro ⟨w, hw, rfl⟩
    exact ⟨(k, w), mem_entries_iff.mpr hw, rfl⟩

theorem values_map_eq_keys {m : HashMap K V} {g : V → K}
    (h : ∀ k v, m.lookup k = some v → g v = k) :
    m.values.map g = m.entries.map Prod.fst := by
  rw [values, List.map_map]
  apply List.map_congr_left
  rintro ⟨k, v⟩ hmem
  exact h k v (mem_entries_iff.mp hmem)

theorem lookup_insert (k k' : K) (v : V) (m : HashMap K V) :
    (m.insert k v).lookup k' = if k' = k then some v else m.lookup k' := by
  split_ifs with h
  · subst h
    exact AList.lookup_insert m.alist
  · exact AList.lookup_insert_ne h

theorem lookup_erase (k k' : K) (m : HashMap K V) :
    (m.erase k).lookup k' = if k' = k then none else m.lookup k' := by
  split_ifs with h
  · subst h
    exact AList.lookup_erase k' m.alist
  · exact AList.lookup_erase_ne h

theorem lookup_eraseAll (ks : List K) (m : HashMap K V) (k : K) :
    (m.eraseAll ks).lookup k = if k ∈ ks then none else m.lookup k := by
  induction ks generalizing m with
  | nil => simp [eraseAll]
  | cons k' ks ih =>
      change ((m.erase k').eraseAll ks).lookup k = _
      rw [ih, lookup_erase]
      by_cases hmem : k ∈ ks <;> simp [hmem]

end HashMap

end RipV2.HashMapModel
