import Mathlib.Data.List.Basic

/-!
# Sites — where an object stands in a sample

The root has the empty site, and the value of member number `i` of the object at `a` has the
site `a ++ [i]`. The lexicographic order of sites is the order of the document read from its
start: an object comes before what it holds, and what it holds before what follows it.

A walk through the document moves on in two ways, down into the object that it met or on to the next
member, and the two lemmas that matter say what is passed by each: `lt_snoc_zero` (down: only the
object itself) and `lt_snoc_succ` (on: the object with everything in it).
-/

set_option autoImplicit false

namespace SampleTypes

/-- Which member to take of the root, which of the object there, and so on. -/
abbrev Site := List Nat

namespace Site

theorem lt_snoc_zero {a b : Site} : b < a ++ [0] ↔ b < a ∨ b = a := by
  induction a generalizing b with
  | nil => cases b <;> simp [List.cons_lt_cons_iff]
  | cons i a ih =>
    cases b with
    | nil => simp
    | cons j b =>
      simp only [List.cons_append, List.cons_lt_cons_iff, ih, List.cons.injEq]
      tauto

theorem lt_snoc_succ {a b : Site} {i : Nat} :
    b < a ++ [i + 1] ↔ b < a ++ [i] ∨ a ++ [i] <+: b := by
  induction a generalizing b with
  | nil =>
    cases b with
    | nil => simp
    | cons j b => simp [List.cons_lt_cons_iff, List.cons_prefix_cons]; omega
  | cons k a ih =>
    cases b with
    | nil => simp
    | cons j b =>
      simp only [List.cons_append, List.cons_lt_cons_iff, ih, List.cons_prefix_cons]
      tauto

theorem lt_of_isPrefix {a b : Site} (h : a <+: b) (hne : a ≠ b) : a < b := by
  obtain ⟨c, rfl⟩ := h
  induction a with
  | nil =>
    cases c with
    | nil => exact absurd rfl hne
    | cons i c => exact List.nil_lt_cons i c
  | cons i a ih =>
    exact List.cons_lt_cons_iff.mpr (Or.inr ⟨rfl, ih fun he => hne (congrArg (i :: ·) he)⟩)

/-- What begins with a site is there, or at one of its members or below. -/
theorem eq_or_snoc_isPrefix {a b : Site} (h : a <+: b) : b = a ∨ ∃ i, a ++ [i] <+: b := by
  obtain ⟨c, rfl⟩ := h
  cases c with
  | nil => exact Or.inl (List.append_nil a)
  | cons i c => exact Or.inr ⟨i, c, by simp⟩

/-- What is at a member or below comes before the members after it. -/
theorem lt_snoc_of_isPrefix {a b : Site} {i n : Nat} (hi : i < n) (h : a ++ [i] <+: b) :
    b < a ++ [n] := by
  induction n with
  | zero => exact absurd hi (Nat.not_lt_zero i)
  | succ n ih =>
    rcases Nat.lt_succ_iff_lt_or_eq.mp hi with hi | rfl
    · exact lt_snoc_succ.mpr (Or.inl (ih hi))
    · exact lt_snoc_succ.mpr (Or.inr h)

theorem snoc_ne_self (a : Site) (i : Nat) : a ++ [i] ≠ a := by simp

theorem lt_snoc (a : Site) (i : Nat) : a < a ++ [i] :=
  lt_of_isPrefix (List.prefix_append a [i]) (snoc_ne_self a i).symm

/-- What comes before a member of an object, and not before the object, is in the object. -/
theorem lt_of_lt_snoc {a b : Site} {i : Nat} (h : b < a ++ [i]) (hp : ¬ a <+: b) : b < a := by
  induction i with
  | zero =>
    rcases lt_snoc_zero.mp h with h | rfl
    · exact h
    · exact absurd (List.prefix_refl b) hp
  | succ i ih =>
    rcases lt_snoc_succ.mp h with h | h
    · exact ih h
    · exact absurd ((List.prefix_append a [i]).trans h) hp

/-- Nothing that begins with a site comes before it. -/
theorem not_lt_of_isPrefix {a b : Site} (h : a <+: b) : ¬ b < a := by
  intro hlt
  by_cases he : a = b
  · exact List.lt_irrefl a (he ▸ hlt)
  · exact List.lt_asymm hlt (lt_of_isPrefix h he)

end Site

end SampleTypes
