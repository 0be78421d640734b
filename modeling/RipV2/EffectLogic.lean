import Mathlib.Order.Defs.PartialOrder

/-!
Computations that change a state and may fail, with the state kept on failure.
Small rules say what such a computation does to the state whatever its outcome.
-/

namespace RipV2.EffectLogic

variable {ε ε' σ τ α β : Type}

/-- The state a computation leaves behind, whether it succeeded or failed. -/
def finalState : EStateM.Result ε σ α → σ
  | .ok _ s => s
  | .error _ s => s

@[simp] theorem finalState_ok (a : α) (s : σ) :
    finalState (.ok a s : EStateM.Result ε σ α) = s := rfl

@[simp] theorem finalState_error (e : ε) (s : σ) :
    finalState (.error e s : EStateM.Result ε σ α) = s := rfl

/-- Whether a run has ended without an error. -/
def succeeded : EStateM.Result ε σ α → Bool
  | .ok _ _ => true
  | .error _ _ => false

@[simp] theorem succeeded_ok (a : α) (s : σ) :
    succeeded (.ok a s : EStateM.Result ε σ α) = true := rfl

@[simp] theorem succeeded_error (e : ε) (s : σ) :
    succeeded (.error e s : EStateM.Result ε σ α) = false := rfl

def error? : EStateM.Result ε σ α → Option ε
  | .ok _ _ => none
  | .error e _ => some e

theorem error?_eq_some {r : EStateM.Result ε σ α} {e : ε} (h : error? r = some e) :
    ∃ s, r = .error e s := by
  cases r with
  | ok a s => simp [error?] at h
  | error e' s =>
      obtain rfl : e' = e := by simpa [error?] using h
      exact ⟨s, rfl⟩

/-- Run a computation on one component of the state. -/
def zoom (get : σ → τ) (set : τ → σ → σ) (m : EStateM ε τ α) : EStateM ε σ α := fun s =>
  match m.run (get s) with
  | .ok a t => .ok a (set t s)
  | .error e t => .error e (set t s)

@[simp] theorem run_zoom (get : σ → τ) (set : τ → σ → σ) (m : EStateM ε τ α) (s : σ) :
    (zoom get set m).run s =
      match m.run (get s) with
      | .ok a t => .ok a (set t s)
      | .error e t => .error e (set t s) := rfl

/-- Keep going after a failure, with its error as a value. -/
def attempt (m : EStateM ε σ α) : EStateM ε' σ (Except ε α) := fun s =>
  match m.run s with
  | .ok a s' => .ok (.ok a) s'
  | .error e s' => .ok (.error e) s'

@[simp] theorem run_attempt (m : EStateM ε σ α) (s : σ) :
    (attempt m : EStateM ε' σ (Except ε α)).run s =
      match m.run s with
      | .ok a s' => .ok (.ok a) s'
      | .error e s' => .ok (.error e) s' := rfl

theorem finalState_discard (m : EStateM ε σ α) (s : σ) :
    finalState ((m >>= fun _ => pure () : EStateM ε σ Unit).run s) = finalState (m.run s) := by
  rw [EStateM.run_bind]
  cases m.run s <;> rfl

theorem succeeded_discard (m : EStateM ε σ α) (s : σ) :
    succeeded ((m >>= fun _ => pure () : EStateM ε σ Unit).run s) = succeeded (m.run s) := by
  rw [EStateM.run_bind]
  cases m.run s <;> rfl

theorem run_bind_ok {x : EStateM ε σ α} {f : α → EStateM ε σ β} {s s' : σ} {b : β}
    (h : (x >>= f).run s = .ok b s') :
    ∃ a s₁, x.run s = .ok a s₁ ∧ (f a).run s₁ = .ok b s' := by
  rw [EStateM.run_bind] at h
  cases hx : x.run s with
  | ok a s₁ =>
      rw [hx] at h
      exact ⟨a, s₁, rfl, h⟩
  | error e s₁ =>
      rw [hx] at h
      exact absurd h (by simp)

theorem succeeded_forM {I : σ → Prop} {f : α → EStateM ε σ PUnit} {as : List α}
    (hf : ∀ a ∈ as, ∀ s, I s → succeeded ((f a).run s) = true ∧ I (finalState ((f a).run s)))
    {s : σ} (hs : I s) : succeeded ((as.forM f).run s) = true := by
  induction as generalizing s with
  | nil => rfl
  | cons a as ih =>
      simp only [List.forM_eq_forM, List.forM_cons, EStateM.run_bind]
      obtain ⟨hsucceeds, hkept⟩ := hf a (by simp) s hs
      cases hrun : (f a).run s with
      | error e s₁ =>
          rw [hrun] at hsucceeds
          exact absurd hsucceeds (by simp)
      | ok b s₁ =>
          rw [hrun] at hkept
          exact ih (fun a' hmem => hf a' (by simp [hmem])) hkept

/-- From `I` the computation keeps `I`, or ends with one of the errors `E`. -/
def Throws (I : σ → Prop) (E : ε → Prop) (m : EStateM ε σ α) : Prop :=
  ∀ s, I s →
    match m.run s with
    | .ok _ s' => I s'
    | .error e _ => E e

theorem throws_forM {I : σ → Prop} {E : ε → Prop} {f : α → EStateM ε σ PUnit} {as : List α}
    (hf : ∀ a ∈ as, Throws I E (f a)) : Throws I E (as.forM f) := by
  induction as with
  | nil => exact fun s hs => hs
  | cons a as ih =>
      intro s hs
      have hfirst := hf a (by simp) s hs
      simp only [List.forM_eq_forM, List.forM_cons, EStateM.run_bind]
      cases hrun : (f a).run s with
      | error e s₁ =>
          rw [hrun] at hfirst
          exact hfirst
      | ok b s₁ =>
          rw [hrun] at hfirst
          exact ih (fun a' hmem => hf a' (by simp [hmem])) s₁ hfirst

/-- Whatever the outcome, the computation moves the state along `R`. -/
def Evolves (R : σ → σ → Prop) (m : EStateM ε σ α) : Prop :=
  ∀ s, R s (finalState (m.run s))

section Rules

variable {R : σ → σ → Prop}

theorem evolves_pure (hrefl : ∀ s, R s s) (a : α) :
    Evolves R (pure a : EStateM ε σ α) := hrefl

theorem evolves_throw (hrefl : ∀ s, R s s) (e : ε) :
    Evolves R (throw e : EStateM ε σ α) := hrefl

theorem evolves_get (hrefl : ∀ s, R s s) :
    Evolves R (get : EStateM ε σ σ) := hrefl

theorem evolves_modify {f : σ → σ} (hf : ∀ s, R s (f s)) :
    Evolves R (modify f : EStateM ε σ Unit) := hf

theorem evolves_bind (htrans : ∀ a b c, R a b → R b c → R a c)
    {x : EStateM ε σ α} {f : α → EStateM ε σ β}
    (hx : Evolves R x) (hf : ∀ a, Evolves R (f a)) : Evolves R (x >>= f) := by
  intro s
  rw [EStateM.run_bind]
  have h₁ := hx s
  cases hxs : x.run s with
  | ok a s₁ =>
      rw [hxs] at h₁
      exact htrans _ _ _ h₁ (hf a s₁)
  | error e s₁ =>
      rw [hxs] at h₁
      exact h₁

theorem evolves_adaptExcept {g : ε → ε'} {m : EStateM ε σ α} (hm : Evolves R m) :
    Evolves R (EStateM.adaptExcept g m) := by
  intro s
  rw [EStateM.run_adaptExcept]
  have h := hm s
  cases hms : m.run s <;> (rw [hms] at h; exact h)

theorem evolves_zoom {get : τ → σ} {set : σ → τ → τ} {R' : τ → τ → Prop}
    (h : ∀ t s', R (get t) s' → R' t (set s' t)) {m : EStateM ε σ α}
    (hm : Evolves R m) : Evolves R' (zoom get set m) := by
  intro t
  rw [run_zoom]
  have hstep := hm (get t)
  cases hms : m.run (get t) <;> (rw [hms] at hstep; exact h t _ hstep)

theorem evolves_attempt {m : EStateM ε σ α} (hm : Evolves R m) :
    Evolves R (attempt m : EStateM ε' σ (Except ε α)) := by
  intro s
  rw [run_attempt]
  have h := hm s
  cases hms : m.run s <;> (rw [hms] at h; exact h)

theorem evolves_forM (hrefl : ∀ s, R s s) (htrans : ∀ a b c, R a b → R b c → R a c)
    {f : α → EStateM ε σ PUnit} {as : List α} (hf : ∀ a ∈ as, Evolves R (f a)) :
    Evolves R (as.forM f) := by
  induction as with
  | nil => exact hrefl
  | cons a as ih =>
      simp only [List.forM_eq_forM, List.forM_cons]
      refine evolves_bind htrans (hf a (by simp)) fun _ => ?_
      exact ih fun b hb => hf b (by simp [hb])

theorem keeps_forM {I : σ → Prop} {f : α → EStateM ε σ PUnit} {as : List α}
    (hf : ∀ a ∈ as, ∀ s, I s → I (finalState ((f a).run s))) {s : σ} (hs : I s) :
    I (finalState ((as.forM f).run s)) := by
  have hevolves : Evolves (fun s s' => I s → I s') (as.forM f) := by
    apply evolves_forM
    · exact fun _ h => h
    · exact fun _ _ _ h h' hs => h' (h hs)
    · exact hf
  exact hevolves s hs

end Rules

end RipV2.EffectLogic
