import Mathlib.Data.List.Forall2

/-!
# Lists side by side, and lists that grow

What the theory needs of lists beyond the library: two lists that are related element by element,
before and after a function or a computation that may fail is run over both, lists that are split where
their elements stop to fit, and lists without repetitions that grow at their end.
-/

set_option autoImplicit false

namespace SampleTypes

section Related

variable {α β γ ε : Type} {related : α → β → Prop}

theorem exists_of_mem_right {as : List α} {bs : List β} (h : List.Forall₂ related as bs) {b : β}
    (hb : b ∈ bs) : ∃ a ∈ as, related a b := by
  induction h with
  | nil => exact absurd hb (by simp)
  | cons hab _ ih =>
    rcases List.mem_cons.mp hb with rfl | hb
    · exact ⟨_, List.mem_cons_self, hab⟩
    · obtain ⟨a, ha, hrelated⟩ := ih hb
      exact ⟨a, List.mem_cons_of_mem _ ha, hrelated⟩

theorem map_eq_map_of_forall₂ {f : α → γ} {g : β → γ} {as : List α} {bs : List β}
    (h : List.Forall₂ related as bs) (hfg : ∀ a b, related a b → f a = g b) :
    as.map f = bs.map g := by
  induction h with
  | nil => rfl
  | cons hab _ ih => rw [List.map_cons, List.map_cons, hfg _ _ hab, ih]

theorem mapM_eq_mapM_of_forall₂ {f : α → Except ε γ} {g : β → Except ε γ} {as : List α}
    {bs : List β} (h : List.Forall₂ related as bs) (hfg : ∀ a b, related a b → f a = g b) :
    as.mapM f = bs.mapM g := by
  induction h with
  | nil => rfl
  | cons hab _ ih => rw [List.mapM_cons, List.mapM_cons, hfg _ _ hab, ih]

/-- A computation succeeds iff its parts do, one after the other. -/
theorem bind_eq_ok_iff {x : Except ε α} {f : α → Except ε β} {b : β} :
    x >>= f = .ok b ↔ ∃ a, x = .ok a ∧ f a = .ok b := by
  cases x <;> simp [bind, Except.bind]

/-- A computation fails iff its first part does, or what goes on from it. -/
theorem bind_eq_error_iff {x : Except ε α} {f : α → Except ε β} {e : ε} :
    x >>= f = .error e ↔ x = .error e ∨ ∃ a, x = .ok a ∧ f a = .error e := by
  cases x <;> simp [bind, Except.bind]

/-- A series of steps fails iff one of them does, after those before it succeeded. -/
theorem foldlM_eq_error_iff {f : β → α → Except ε β} {as : List α} {b : β} {e : ε} :
    as.foldlM f b = .error e ↔ ∃ before a after last, as = before ++ a :: after ∧
      before.foldlM f b = .ok last ∧ f last a = .error e := by
  induction as generalizing b with
  | nil => simp [pure, Except.pure]
  | cons a as ih =>
    rw [List.foldlM_cons, bind_eq_error_iff]
    constructor
    · rintro (hfirst | ⟨next, hfirst, hrest⟩)
      · exact ⟨[], a, as, b, rfl, rfl, hfirst⟩
      · obtain ⟨before, a', after, last, rfl, hbefore, hlast⟩ := ih.mp hrest
        refine ⟨a :: before, a', after, last, rfl, ?_, hlast⟩
        rw [List.foldlM_cons, bind_eq_ok_iff]
        exact ⟨next, hfirst, hbefore⟩
    · rintro ⟨before, a', after, last, heq, hbefore, hlast⟩
      cases before with
      | nil =>
        obtain ⟨rfl, rfl⟩ := List.cons.inj heq
        cases hbefore
        exact Or.inl hlast
      | cons first before =>
        obtain ⟨rfl, rfl⟩ := List.cons.inj heq
        rw [List.foldlM_cons, bind_eq_ok_iff] at hbefore
        obtain ⟨next, hfirst, hbefore⟩ := hbefore
        exact Or.inr ⟨next, hfirst, ih.mpr ⟨before, a', after, last, rfl, hbefore, hlast⟩⟩

/-- A computation over a list succeeds iff it does at each element. -/
theorem mapM_eq_ok_iff {f : α → Except ε β} {as : List α} {bs : List β} :
    as.mapM f = .ok bs ↔ List.Forall₂ (fun a b => f a = .ok b) as bs := by
  induction as generalizing bs with
  | nil => cases bs <;> simp [pure, Except.pure]
  | cons a as ih =>
    rw [List.mapM_cons]
    cases hfirst : f a with
    | error e => cases bs <;> simp [bind, Except.bind, hfirst]
    | ok b =>
      cases hrest : as.mapM f with
      | error e => cases bs <;> simp [bind, Except.bind, ← ih, hrest]
      | ok bs' =>
        cases bs <;> simp [bind, Except.bind, pure, Except.pure, ← ih, hrest, hfirst]

end Related

theorem filterMap_cons_eq {α β : Type} (f : α → Option β) (a : α) (as : List α) :
    (a :: as).filterMap f = (f a).toList ++ as.filterMap f := by
  cases h : f a with
  | none => rw [List.filterMap_cons_none h]; rfl
  | some b => rw [List.filterMap_cons_some h]; rfl

section Splitting

variable {α : Type} {p : α → Bool}

theorem drop_length_takeWhile (as : List α) : as.drop (as.takeWhile p).length = as.dropWhile p := by
  calc as.drop (as.takeWhile p).length
      = (as.takeWhile p ++ as.dropWhile p).drop (as.takeWhile p).length := by
        rw [List.takeWhile_append_dropWhile]
    _ = as.dropWhile p := List.drop_left

/-- A list splits where the first element stands that does not fit. -/
theorem takeWhile_append_of_head? {as bs : List α} (has : ∀ a ∈ as, p a = true)
    (hbs : ∀ b ∈ bs.head?, p b = false) : (as ++ bs).takeWhile p = as := by
  rw [List.takeWhile_append_of_pos has]
  cases bs with
  | nil => simp
  | cons b bs => simp [hbs b rfl]

theorem eq_false_of_mem_head?_dropWhile {as : List α} : ∀ a ∈ (as.dropWhile p).head?, p a = false := by
  intro a ha
  have hnot := List.head?_dropWhile_not p as
  rwa [Option.mem_def.mp ha] at hnot

end Splitting

section Growing

variable {α : Type} [BEq α] [LawfulBEq α] {met : List α} {a : α}

theorem eraseDups_snoc_of_mem (h : a ∈ met) : (met ++ [a]).eraseDups = met.eraseDups := by
  have hnone : [a].removeAll met = [] := by simp [List.removeAll, h]
  rw [List.eraseDups_append, hnone, List.eraseDups_nil, List.append_nil]

theorem eraseDups_snoc_of_notMem (h : a ∉ met) : (met ++ [a]).eraseDups = met.eraseDups ++ [a] := by
  have hone : [a].removeAll met = [a] := by simp [List.removeAll, h]
  rw [List.eraseDups_append, hone]
  rfl

end Growing

end SampleTypes
