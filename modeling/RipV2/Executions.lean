import Mathlib.Algebra.BigOperators.Intervals
import Mathlib.Data.Finset.Card
import Mathlib.Order.Filter.AtTopBot.Basic

/-!
Endless executions of processes that take their steps one at a time, and how
often something happens in a stretch of them.
-/

namespace RipV2.Executions

open Filter

variable {Process σ α : Type}

/-- At each time one process takes a step, and the others stay as they are. -/
structure Execution (Process : Type) (step : σ → α → σ → Prop) where
  states : ℕ → Process → σ
  actor : ℕ → Process
  label : ℕ → α
  acts : ∀ t, step (states t (actor t)) (label t) (states (t + 1) (actor t))
  rests : ∀ t process, process ≠ actor t → states (t + 1) process = states t process

variable {step : σ → α → σ → Prop}

/-- What a process has and keeps with each of its steps, it has ever after. -/
theorem Execution.keeps (execution : Execution Process step) {process : Process} {I : σ → Prop}
    {a : ℕ} (hstart : I (execution.states a process))
    (hkeeps : ∀ t, a ≤ t → execution.actor t = process → I (execution.states t process) →
      I (execution.states (t + 1) process)) {t : ℕ} (hat : a ≤ t) :
    I (execution.states t process) := by
  induction t, hat using Nat.le_induction with
  | base => exact hstart
  | succ t hat ih =>
      by_cases hacts : execution.actor t = process
      · exact hkeeps t hat hacts ih
      · rw [execution.rests t process (Ne.symm hacts)]
        exact ih

theorem exists_execution [DecidableEq Process] (plan : ℕ → Process × α)
    {I : ℕ → (Process → σ) → Prop} {start : Process → σ} (hstart : I 0 start)
    (hnext : ∀ t states, I t states → ∃ next, step (states (plan t).1) (plan t).2 next ∧
      I (t + 1) (Function.update states (plan t).1 next)) :
    ∃ execution : Execution Process step, execution.states 0 = start ∧
      (∀ t, execution.actor t = (plan t).1 ∧ execution.label t = (plan t).2) ∧
      ∀ t, I t (execution.states t) := by
  choose next hstep hI using hnext
  let states : (t : ℕ) → { states // I t states } := fun t =>
    t.rec ⟨start, hstart⟩ fun t current =>
      ⟨Function.update current.1 (plan t).1 (next t current.1 current.2), hI t _ current.2⟩
  have hsucc : ∀ t, (states (t + 1)).1 =
      Function.update (states t).1 (plan t).1 (next t (states t).1 (states t).2) := fun _ => rfl
  refine ⟨⟨fun t => (states t).1, fun t => (plan t).1, fun t => (plan t).2, fun t => ?_,
    fun t process hne => ?_⟩, rfl, fun _ => ⟨rfl, rfl⟩, fun t => (states t).2⟩
  · rw [hsucc, Function.update_self]
    exact hstep t _ (states t).2
  · rw [hsucc, Function.update_of_ne hne]

open Classical in
/-- How often something happens from `a` on and before `b`. -/
noncomputable def occurrences (P : ℕ → Prop) (a b : ℕ) : ℕ :=
  ((Finset.Ico a b).filter P).card

variable {P : ℕ → Prop} {a b : ℕ}

@[simp] theorem occurrences_self (P : ℕ → Prop) (a : ℕ) : occurrences P a a = 0 := by
  simp [occurrences]

open Classical in
theorem occurrences_le (P : ℕ → Prop) (a b : ℕ) : occurrences P a b ≤ b - a :=
  (Finset.card_filter_le _ _).trans_eq (Nat.card_Ico a b)

open Classical in
theorem occurrences_succ (h : a ≤ b) :
    occurrences P a (b + 1) = occurrences P a b + if P b then 1 else 0 := by
  simp only [occurrences, Finset.card_filter]
  exact Finset.sum_Ico_succ_top h _

theorem occurrences_succ_of_pos (h : a ≤ b) (hb : P b) :
    occurrences P a (b + 1) = occurrences P a b + 1 := by
  rw [occurrences_succ h, if_pos hb]

theorem occurrences_succ_of_neg (h : a ≤ b) (hb : ¬P b) :
    occurrences P a (b + 1) = occurrences P a b := by
  rw [occurrences_succ h, if_neg hb, Nat.add_zero]

/-- What happens again and again happens any number of times. -/
theorem eventually_le_occurrences (h : ∃ᶠ t in atTop, P t) (a n : ℕ) :
    ∀ᶠ b in atTop, n ≤ occurrences P a b := by
  have hmono : ∀ b c, b ≤ c → occurrences P a b ≤ occurrences P a c := by
    intro b c hbc
    apply Finset.card_le_card
    gcongr
  induction n with
  | zero => exact Eventually.of_forall fun _ => Nat.zero_le _
  | succ n ih =>
      obtain ⟨b, hb⟩ := (ih.and (eventually_ge_atTop a)).exists
      obtain ⟨t, hbt, ht⟩ := (frequently_atTop.mp h) b
      filter_upwards [eventually_ge_atTop (t + 1)] with c hc
      have hbefore := hmono b t hbt
      have hafter := hmono (t + 1) c hc
      rw [occurrences_succ_of_pos (hb.2.trans hbt) ht] at hafter
      omega

end RipV2.Executions
