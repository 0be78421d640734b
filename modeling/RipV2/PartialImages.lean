import Mathlib.Data.Finset.Insert
import Mathlib.Data.Finset.Erase
import Mathlib.Logic.Function.Basic

namespace RipV2.PartialImages

variable {α β : Type} [DecidableEq α] [DecidableEq β] {f : α → Option β} {s : Finset β}

/-- `s` has the values of the partial function `f`, and no others. -/
def Images (f : α → Option β) (s : Finset β) : Prop :=
  ∀ b, b ∈ s ↔ ∃ a, f a = some b

theorem Images.erase {a : α} {b : β} (h : Images f s) (ha : ∀ b', f a = some b' → b' = b)
    (hb : ∀ a', f a' = some b → a' = a) : Images (Function.update f a none) (s.erase b) := by
  intro b'
  rw [Finset.mem_erase, h b']
  constructor
  · rintro ⟨hne, a', ha'⟩
    refine ⟨a', ?_⟩
    rw [Function.update_of_ne, ha']
    rintro rfl
    exact hne (ha b' ha')
  · rintro ⟨a', ha'⟩
    by_cases haa : a' = a
    · subst haa
      simp at ha'
    · rw [Function.update_of_ne haa] at ha'
      refine ⟨?_, a', ha'⟩
      rintro rfl
      exact haa (hb a' ha')

theorem Images.insert {a : α} (b : β) (h : Images f s) (ha : f a = none) :
    Images (Function.update f a (some b)) (insert b s) := by
  intro b'
  rw [Finset.mem_insert, h b']
  constructor
  · rintro (rfl | ⟨a', ha'⟩)
    · exact ⟨a, by simp⟩
    · refine ⟨a', ?_⟩
      rw [Function.update_of_ne, ha']
      rintro rfl
      simp [ha] at ha'
  · rintro ⟨a', ha'⟩
    by_cases haa : a' = a
    · subst haa
      rw [Function.update_self] at ha'
      exact .inl (Option.some.inj ha').symm
    · rw [Function.update_of_ne haa] at ha'
      exact .inr ⟨a', ha'⟩

end RipV2.PartialImages
