import Mathlib.Data.List.Basic

/-!
# Steps that change a state and may fail

A run of the command line and a registration are made of such steps. A step that fails keeps what it
has done to the state; `ExceptT ε (StateM σ)` is the order of the two layers that says so. Here is what
each way to make a step comes to when it is run, and what carries over to a step from its parts: a
relation between the states before and after it (`Keeps`).
-/

set_option autoImplicit false

namespace SampleTypes.Step

variable {ε σ α β : Type} {x : ExceptT ε (StateM σ) α} {f : α → ExceptT ε (StateM σ) β}

/-! ## Runs -/

/-- What a step comes to in a state, and the state after it. -/
def run (x : ExceptT ε (StateM σ) α) (s : σ) : Except ε α × σ := x.run.run s

section Runs

variable (s : σ)

@[simp]
theorem run_pure (a : α) : run (pure a : ExceptT ε (StateM σ) α) s = (.ok a, s) := rfl

@[simp]
theorem run_throw (e : ε) : run (throw e : ExceptT ε (StateM σ) α) s = (.error e, s) := rfl

@[simp]
theorem run_get : run (get : ExceptT ε (StateM σ) σ) s = (.ok s, s) := rfl

@[simp]
theorem run_modify (g : σ → σ) :
    run (modify g : ExceptT ε (StateM σ) PUnit) s = (.ok ⟨⟩, g s) := rfl

theorem run_bind (x : ExceptT ε (StateM σ) α) (f : α → ExceptT ε (StateM σ) β) :
    run (x >>= f) s =
      match run x s with
      | (.ok a, s') => run (f a) s'
      | (.error e, s') => (.error e, s') := by
  rw [run, run, ExceptT.run_bind, StateT.run_bind]
  rcases x.run.run s with ⟨_ | _, s'⟩ <;> rfl

theorem run_get_bind (f : σ → ExceptT ε (StateM σ) α) : run (get >>= f) s = run (f s) s := rfl

theorem run_modify_bind (g : σ → σ) (f : PUnit → ExceptT ε (StateM σ) α) :
    run (modify g >>= f) s = run (f ⟨⟩) (g s) := rfl

theorem run_tryCatch (x : ExceptT ε (StateM σ) α) (f : ε → ExceptT ε (StateM σ) α) :
    run (tryCatch x f) s =
      match run x s with
      | (.ok a, s') => (.ok a, s')
      | (.error e, s') => run (f e) s' := by
  rw [run, run, ExceptT.run_tryCatch, StateT.run_bind]
  rcases x.run.run s with ⟨_ | _, s'⟩ <;> rfl

end Runs

variable {s t : σ}

theorem run_bind_of_ok {a : α} (h : run x s = (.ok a, t)) : run (x >>= f) s = run (f a) t := by
  rw [run_bind, h]

theorem run_bind_of_error {e : ε} (h : run x s = (.error e, t)) :
    run (x >>= f) s = (.error e, t) := by
  rw [run_bind, h]

/-- A sequence of steps has come to an end iff each of them has. -/
theorem run_bind_eq_ok {b : β} {u : σ} : run (x >>= f) s = (.ok b, u) ↔
    ∃ a t, run x s = (.ok a, t) ∧ run (f a) t = (.ok b, u) := by
  rw [run_bind]
  rcases run x s with ⟨_ | _, t⟩ <;> simp

/-- A sequence of steps fails in one of them. -/
theorem run_bind_eq_error {e : ε} {u : σ} : run (x >>= f) s = (.error e, u) ↔
    run x s = (.error e, u) ∨
      ∃ a t, run x s = (.ok a, t) ∧ run (f a) t = (.error e, u) := by
  rw [run_bind]
  rcases run x s with ⟨_ | _, t⟩ <;> simp

/-! ## What steps keep -/

/-- A step keeps a relation if that holds between the states before and after it, also where it
fails. -/
def Keeps (r : σ → σ → Prop) (x : ExceptT ε (StateM σ) α) : Prop := ∀ s, r s (run x s).2

namespace Keeps

variable {r : σ → σ → Prop}

theorem of_run {a : Except ε α} (hx : Keeps r x) (h : run x s = (a, t)) : r s t := by
  have hs := hx s
  rwa [h] at hs

section

variable (hrefl : ∀ s, r s s)

include hrefl

theorem pure (a : α) : Keeps r (pure a : ExceptT ε (StateM σ) α) := hrefl

theorem throw (e : ε) : Keeps r (throw e : ExceptT ε (StateM σ) α) := hrefl

theorem get : Keeps r (get : ExceptT ε (StateM σ) σ) := hrefl

end

theorem modify {g : σ → σ} (h : ∀ s, r s (g s)) :
    Keeps r (modify g : ExceptT ε (StateM σ) PUnit) := h

section

variable (htrans : ∀ s t u, r s t → r t u → r s u)

include htrans

theorem bind (hx : Keeps r x) (hf : ∀ a, Keeps r (f a)) : Keeps r (x >>= f) := by
  intro s
  rw [run_bind]
  rcases hrun : run x s with ⟨_ | a, t⟩ <;> have hfirst := hx.of_run hrun
  · exact hfirst
  · exact htrans _ _ _ hfirst (hf a t)

theorem forM (hrefl : ∀ s, r s s) {γ : Type} {g : γ → ExceptT ε (StateM σ) PUnit} {cs : List γ}
    (hg : ∀ c ∈ cs, Keeps r (g c)) : Keeps r (cs.forM g) := by
  induction cs with
  | nil => exact hrefl
  | cons c cs ih =>
    obtain ⟨hc, hcs⟩ := List.forall_mem_cons.mp hg
    exact bind htrans hc fun _ => ih hcs

end

end Keeps

/-! ## Steps that cannot fail -/

/-- A step that comes to an end in every state. -/
def Succeeds (x : ExceptT ε (StateM σ) α) : Prop := ∀ s, ∃ a t, run x s = (.ok a, t)

namespace Succeeds

theorem pure (a : α) : Succeeds (pure a : ExceptT ε (StateM σ) α) := fun s => ⟨a, s, rfl⟩

theorem modify (g : σ → σ) : Succeeds (modify g : ExceptT ε (StateM σ) PUnit) :=
  fun s => ⟨⟨⟩, g s, rfl⟩

theorem bind (hx : Succeeds x) (hf : ∀ a, Succeeds (f a)) : Succeeds (x >>= f) := by
  intro s
  obtain ⟨a, t, hrun⟩ := hx s
  rw [run_bind_of_ok hrun]
  exact hf a t

theorem run_bind_pure (hx : Succeeds x) (b : β) (s : σ) :
    ∃ t, run (x >>= fun _ => (Pure.pure b : ExceptT ε (StateM σ) β)) s = (.ok b, t) := by
  obtain ⟨a, t, hrun⟩ := hx s
  exact ⟨t, run_bind_of_ok hrun⟩

theorem forM {γ : Type} {g : γ → ExceptT ε (StateM σ) PUnit} {cs : List γ}
    (hg : ∀ c ∈ cs, Succeeds (g c)) : Succeeds (cs.forM g) := by
  induction cs with
  | nil => exact Succeeds.pure PUnit.unit
  | cons c cs ih =>
    obtain ⟨hc, hcs⟩ := List.forall_mem_cons.mp hg
    exact hc.bind fun _ => ih hcs

end Succeeds

end SampleTypes.Step
