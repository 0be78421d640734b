import Mathlib.Data.List.Sort

/-!
Sorting a list that is made of two parts, neither of which has ties within
itself. A stable sort puts each tie in the order of the parts, so the result
does not depend on the order of the elements within a part.
-/

namespace RipV2.StableSorting

open List

variable {α : Type}

theorem not_both_orders {l : List α} (hnodup : l.Nodup) {a b : α} (hab : [a, b] <+ l)
    (hba : [b, a] <+ l) : False := by
  induction l with
  | nil => simp at hab
  | cons x l ih =>
      obtain ⟨hx, hrest⟩ := List.nodup_cons.mp hnodup
      rcases List.sublist_cons_iff.mp hab with htail | ⟨r, hr, hb⟩
      · rcases List.sublist_cons_iff.mp hba with htail' | ⟨r, hr, ha⟩
        · exact ih hrest htail htail'
        · obtain rfl := (List.cons.inj hr).1
          exact hx (htail.subset (show b ∈ [a, b] by simp))
      · obtain ⟨rfl, rfl⟩ := List.cons.inj hr
        rcases List.sublist_cons_iff.mp hba with htail | ⟨r, hr, ha⟩
        · exact hx (htail.subset (show a ∈ [b, a] by simp))
        · obtain rfl := (List.cons.inj hr).1
          exact hx (hb.subset (show b ∈ [b] by simp))

/-- No two elements of the list are tied. -/
def NoTies (le : α → α → Bool) (l : List α) : Prop :=
  ∀ a ∈ l, ∀ b ∈ l, le a b = true → le b a = true → a = b

/-- The order that settles ties between the parts in favour of the front. -/
def TiesFront (le : α → α → Bool) (front back : List α) (a b : α) : Prop :=
  le a b = true ∧ (le b a = true → a = b ∨ a ∈ front ∧ b ∈ back)

section

variable {le : α → α → Bool} (trans : ∀ a b c, le a b = true → le b c = true → le a c = true)
  (total : ∀ a b, (le a b || le b a) = true)

include trans total

theorem pairwise_tiesFront {front back : List α} (hfront : NoTies le front)
    (hback : NoTies le back) (hnodup : (front ++ back).Nodup) :
    ((front ++ back).mergeSort le).Pairwise (TiesFront le front back) := by
  rw [List.pairwise_iff_forall_sublist]
  intro a b hsorted
  have hordered := List.pairwise_mergeSort trans total (front ++ back)
  have hle := List.pairwise_iff_forall_sublist.mp hordered hsorted
  refine ⟨hle, fun htied => ?_⟩
  have hmem : ∀ c ∈ [a, b], c ∈ front ∨ c ∈ back := fun c hc =>
    List.mem_append.mp (List.mem_mergeSort.mp (hsorted.subset hc))
  rcases hmem a (by simp) with ha | ha
  · rcases hmem b (by simp) with hb | hb
    · exact .inl (hfront a ha b hb hle htied)
    · exact .inr ⟨ha, hb⟩
  · rcases hmem b (by simp) with hb | hb
    · -- the list has `b` before `a`, and so has the sorted list
      have hbefore : [b, a] <+ front ++ back :=
        (List.singleton_sublist.mpr hb).append (List.singleton_sublist.mpr ha)
      have hkept := List.pair_sublist_mergeSort trans total htied hbefore
      have hnodup' := (List.mergeSort_perm (front ++ back) le).nodup_iff.mpr hnodup
      exact (not_both_orders hnodup' hsorted hkept).elim
    · exact .inl (hback a ha b hb hle htied)

theorem mergeSort_append_perm {front front' back back' : List α} (hfront : NoTies le front)
    (hback : NoTies le back) (hnodup : (front ++ back).Nodup) (hpermFront : front.Perm front')
    (hpermBack : back.Perm back') :
    (front ++ back).mergeSort le = (front' ++ back').mergeSort le := by
  have hperm := hpermFront.append hpermBack
  have hfront' : NoTies le front' := fun a ha b hb =>
    hfront a (hpermFront.mem_iff.mpr ha) b (hpermFront.mem_iff.mpr hb)
  have hback' : NoTies le back' := fun a ha b hb =>
    hback a (hpermBack.mem_iff.mpr ha) b (hpermBack.mem_iff.mpr hb)
  have hsorted := pairwise_tiesFront trans total hfront hback hnodup
  have hsorted' := pairwise_tiesFront trans total hfront' hback' (hperm.nodup_iff.mp hnodup)
  have hsorted'' : ((front' ++ back').mergeSort le).Pairwise (TiesFront le front back) := by
    refine hsorted'.imp fun hle => ⟨hle.1, fun htied => (hle.2 htied).imp id ?_⟩
    exact fun hmem => ⟨hpermFront.mem_iff.mpr hmem.1, hpermBack.mem_iff.mpr hmem.2⟩
  refine List.Perm.eq_of_pairwise ?_ hsorted hsorted''
    (((List.mergeSort_perm _ _).trans hperm).trans (List.mergeSort_perm _ _).symm)
  rintro a b - - ⟨hab, htied⟩ ⟨hba, htied'⟩
  rcases htied hba with heq | ⟨ha, hb⟩
  · exact heq
  · rcases htied' hab with heq | ⟨hb', -⟩
    · exact heq.symm
    · exact absurd rfl ((List.nodup_append.mp hnodup).2.2 b hb' b hb)

end

end RipV2.StableSorting
