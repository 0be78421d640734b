import Mathlib.Data.List.Basic

namespace RipV2.TransitionRuns

variable {σ α : Type}

/-- The runs from `s`, with the labels of their steps and their last state. -/
inductive Run (step : σ → α → σ → Prop) (s : σ) : List α → σ → Prop
  | nil : Run step s [] s
  | snoc {as : List α} {t u : σ} {a : α} :
      Run step s as t → step t a u → Run step s (as ++ [a]) u

variable {step : σ → α → σ → Prop} {s t u : σ} {as bs : List α}

theorem Run.single {a : α} (h : step s a t) : Run step s [a] t :=
  .snoc .nil h

theorem Run.append (h : Run step s as t) (h' : Run step t bs u) :
    Run step s (as ++ bs) u := by
  induction h' with
  | nil => simpa using h
  | snoc _ hstep ih =>
      rw [← List.append_assoc]
      exact .snoc ih hstep

theorem Run.mono {step' : σ → α → σ → Prop} (h : Run step s as t)
    (hmono : ∀ a ∈ as, ∀ t u, step t a u → step' t a u) : Run step' s as t := by
  induction h with
  | nil => exact .nil
  | snoc _ hstep ih =>
      exact .snoc (ih fun a ha => hmono a (by simp [ha])) (hmono _ (by simp) _ _ hstep)

theorem Run.keeps {I : σ → Prop} {P : α → Prop}
    (hkeeps : ∀ t a u, P a → I t → step t a u → I u)
    (h : Run step s as t) (hP : ∀ a ∈ as, P a) (hs : I s) : I t := by
  induction h with
  | nil => exact hs
  | snoc _ hstep ih =>
      refine hkeeps _ _ _ (hP _ (by simp)) (ih fun a ha => hP a (by simp [ha])) hstep

theorem Run.eq_of_nil (h : Run step s [] t) : t = s := by
  generalize hnil : [] = as at h
  cases h with
  | nil => rfl
  | snoc _ _ => simp at hnil

theorem Run.of_snoc {a : α} (h : Run step s (as ++ [a]) u) :
    ∃ t, Run step s as t ∧ step t a u := by
  generalize hbs : as ++ [a] = bs at h
  cases h with
  | nil => simp at hbs
  | snoc hrun hstep =>
      obtain ⟨rfl, hlast⟩ := List.append_inj' hbs rfl
      obtain rfl := (List.singleton_inj.mp hlast)
      exact ⟨_, hrun, hstep⟩

variable {τ β : Type} {step' : τ → β → τ → Prop} {L : σ → α → List β → Prop} {R : τ → σ → Prop}

/-- A step beside the run of another relation that it stands for: `L` says which labels may
stand for its own there, and `R` relates the states after it. -/
structure Joint (step : σ → α → σ → Prop) (step' : τ → β → τ → Prop)
    (L : σ → α → List β → Prop) (R : τ → σ → Prop) (x : τ × σ) (label : α × List β)
    (y : τ × σ) : Prop where
  step : step x.2 label.1 y.2
  simulation : Run step' x.1 label.2 y.1
  labels : L x.2 label.1 label.2
  related : R y.1 y.2

/-- Where each step is a run of another relation between related states, so is every run.
One step may take several there, or none. -/
theorem Run.simulated
    (hsimulated : ∀ s a t s', step s a t → R s' s →
      ∃ bs t', L s a bs ∧ Run step' s' bs t' ∧ R t' t)
    (h : Run step s as t) {s' : τ} (hs : R s' s) :
    ∃ labels t', labels.map Prod.fst = as ∧ R t' t ∧
      Run (Joint step step' L R) (s', s) labels (t', t) := by
  induction h with
  | nil => exact ⟨[], s', rfl, hs, .nil⟩
  | @snoc as t u a _ hstep ih =>
      obtain ⟨labels, t', hlabels, ht, hrun⟩ := ih
      obtain ⟨bs, u', hbs, hnext, hu⟩ := hsimulated t a u t' hstep ht
      refine ⟨labels ++ [(a, bs)], u', ?_, hu, hrun.snoc ⟨hstep, hnext, hbs, hu⟩⟩
      rw [List.map_append, hlabels]
      rfl

theorem Run.joined {x y : τ × σ} {labels : List (α × List β)}
    (h : Run (Joint step step' L R) x labels y) :
    Run step' x.1 (labels.flatMap Prod.snd) y.1 := by
  induction h with
  | nil => exact .nil
  | snoc _ hstep ih =>
      rw [List.flatMap_append, List.flatMap_singleton]
      exact ih.append hstep.simulation

end RipV2.TransitionRuns
