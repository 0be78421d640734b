import Mathlib.Data.List.MinMax

namespace RipV2.FirstMinima

open List

variable {α β : Type} [LinearOrder β]

theorem argmin_append (f : α → β) (as bs : List α) :
    argmin f (as ++ bs) = argmin f ((argmin f as).toList ++ bs) := by
  induction bs using List.reverseRecOn with
  | nil =>
      rw [List.append_nil, List.append_nil]
      cases argmin f as <;> simp
  | append_singleton bs b ih =>
      rw [← List.append_assoc, ← List.append_assoc, argmin_concat, argmin_concat, ih]

/-- Which element comes first depends on the order, the least value does not. -/
theorem map_argmin_of_perm (f : α → β) {as bs : List α} (h : as.Perm bs) :
    (argmin f as).map f = (argmin f bs).map f := by
  cases has : argmin f as with
  | none =>
      obtain rfl := argmin_eq_none.mp has
      rw [h.symm.eq_nil, argmin_nil]
  | some a =>
      cases hbs : argmin f bs with
      | none =>
          obtain rfl := argmin_eq_none.mp hbs
          rw [h.eq_nil, argmin_nil] at has
          cases has
      | some b =>
          have hab := le_of_mem_argmin (h.mem_iff.mpr (argmin_mem hbs)) has
          have hba := le_of_mem_argmin (h.mem_iff.mp (argmin_mem has)) hbs
          rw [Option.map_some, Option.map_some, le_antisymm hab hba]

end RipV2.FirstMinima
