import Mathlib.Logic.Function.Iterate

/-!
# Runs — where steps lead

The traversal of a store and the walk through a sample are both a step that is taken again and again,
until a state comes that it does not change. `Leads` says that so and so many steps lead from one state
to another. How many does not matter, because **a run that comes to rest does so in one state only**
(`Leads.eq_of_fixed`).
-/

set_option autoImplicit false

namespace SampleTypes

variable {State : Type} {step : State → State} {s s' s'' : State}

/-- Steps lead from one state to another. -/
def Leads (step : State → State) (s s' : State) : Prop := ∃ n, step^[n] s = s'

namespace Leads

theorem refl (s : State) : Leads step s s := ⟨0, rfl⟩

theorem trans (h : Leads step s s') (h' : Leads step s' s'') : Leads step s s'' := by
  obtain ⟨m, rfl⟩ := h
  obtain ⟨n, rfl⟩ := h'
  exact ⟨n + m, Function.iterate_add_apply step n m s⟩

theorem of_step (h : step s = s') (h' : Leads step s' s'') : Leads step s s'' :=
  trans ⟨1, h⟩ h'

/-- What every step keeps holds where the steps lead. -/
theorem keeps {P : State → Prop} (hstep : ∀ s, P s → P (step s)) (h : Leads step s s')
    (hs : P s) : P s' := by
  obtain ⟨n, rfl⟩ := h
  induction n generalizing s with
  | zero => exact hs
  | succ n ih => exact ih (hstep s hs)

theorem eq_of_fixed (h : Leads step s s') (h' : Leads step s s'') (hs' : step s' = s')
    (hs'' : step s'' = s'') : s' = s'' := by
  obtain ⟨m, rfl⟩ := h
  obtain ⟨n, rfl⟩ := h'
  calc step^[m] s = step^[n] (step^[m] s) := (Function.iterate_fixed hs' n).symm
    _ = step^[m] (step^[n] s) := by
      rw [← Function.iterate_add_apply, ← Function.iterate_add_apply, Nat.add_comm]
    _ = step^[n] s := Function.iterate_fixed hs'' m

end Leads

end SampleTypes
