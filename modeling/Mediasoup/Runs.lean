import Mathlib.Data.List.Basic

set_option autoImplicit false

/-! # Runs of a step that may crash

The Worker and the DirectTransport are both run by folding a step that may crash (`none`, a null
dereference) over a list of events: `List.foldlM` in `Option`. The inductions over such runs are
done here once. A relation that each step gives and that composes holds of every run; an invariant
each step keeps holds after every run; and when whether a step crashes does not depend on the
state, a run crashes exactly when one of its events is a crashing one.
-/

namespace Mediasoup

variable {σ ε : Type} {step : σ → ε → Option σ}

/-- **Runs keep what steps keep**, as a relation between the state before and after the events. -/
theorem foldlM_rel (R : σ → σ → List ε → Prop) (nil : ∀ s, R s s [])
    (cons : ∀ s₁ s₂ s₃ e es, R s₁ s₂ [e] → R s₂ s₃ es → R s₁ s₃ (e :: es))
    (hstep : ∀ s s' e, step s e = some s' → R s s' [e]) {s s' : σ} {es : List ε}
    (h : es.foldlM step s = some s') : R s s' es := by
  induction es generalizing s with
  | nil => cases h; exact nil _
  | cons e es ih =>
    obtain ⟨s₁, h₁, h₂⟩ := Option.bind_eq_some.1 h
    exact cons _ _ _ _ _ (hstep _ _ _ h₁) (ih h₂)

/-- **Runs keep what steps keep**, as an invariant of the states. -/
theorem foldlM_inv (I : σ → Prop) (hstep : ∀ s s' e, step s e = some s' → I s → I s')
    {s s' : σ} {es : List ε} (h : es.foldlM step s = some s') (hs : I s) : I s' :=
  foldlM_rel (fun s s' _ => I s → I s') (fun _ => id) (fun _ _ _ _ _ h₁ h₂ => h₂ ∘ h₁)
    hstep h hs

/-- **Where a run crashes**, when whether a step crashes depends only on the event. -/
theorem foldlM_eq_none_iff (Bad : ε → Prop) (hbad : ∀ s e, step s e = none ↔ Bad e) {s : σ}
    {es : List ε} : es.foldlM step s = none ↔ ∃ e ∈ es, Bad e := by
  induction es generalizing s with
  | nil => simp [pure]
  | cons e es ih =>
    simp only [List.foldlM_cons, List.exists_mem_cons]
    cases hs : step s e with
    | none => simp [(hbad s e).1 hs, bind]
    | some s₁ => simpa [← hbad s e, hs, bind] using ih

end Mediasoup
