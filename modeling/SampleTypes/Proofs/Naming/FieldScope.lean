import Mathlib.Data.List.Nodup
import Mathlib.Data.List.Perm.Subperm
import SampleTypes.Naming.FieldScope

/-!
# A field scope gives each name once

A name that is taken is tried again with the numbers from one on, until a form of it is free
(`FieldScope.EndsAt`). All these forms are different, and one number more is tried than there are
names taken, so **the search ends, with the first form that is free** (`FieldScope.exists_endsAt`).
Hence **a name is given once** (`FieldScope.nodup_assignAll`), whatever the keys ask for and with
whatever suffixes.
-/

set_option autoImplicit false

namespace SampleTypes.FieldScope

/-! ## The forms of a name -/

/-- The forms of a name in the order in which they are tried: the name itself, then the numbered
ones. -/
def candidate (name suffix : Text) : Nat → Text
  | 0 => name
  | n + 1 => numbered name suffix (n + 1)

@[simp]
theorem candidate_zero (name suffix : Text) : candidate name suffix 0 = name := rfl

@[simp]
theorem candidate_succ (name suffix : Text) (n : Nat) :
    candidate name suffix (n + 1) = numbered name suffix (n + 1) := rfl

theorem candidate_of_pos (name suffix : Text) {n : Nat} (h : 1 ≤ n) :
    candidate name suffix n = numbered name suffix n := by
  obtain ⟨m, rfl⟩ := Nat.exists_eq_succ_of_ne_zero (Nat.one_le_iff_ne_zero.mp h)
  rfl

theorem numbered_injective (name suffix : Text) : Function.Injective (numbered name suffix) := by
  intro m n h
  have htexts : ((toString m : String) : Text) = (toString n : String) := List.append_cancel_left h
  have hchars : (toString m).toList = (toString n).toList :=
    List.map_injective_iff.mpr (fun _ _ => CodePoint.scalar.inj) htexts
  have hdigits : Nat.toDigits 10 m = Nat.toDigits 10 n := by simpa [Nat.toList_repr] using hchars
  calc m = Nat.ofDigitChars 10 (Nat.toDigits 10 m) 0 := Nat.ofDigitChars_ten_toDigits.symm
    _ = Nat.ofDigitChars 10 (Nat.toDigits 10 n) 0 := by rw [hdigits]
    _ = n := Nat.ofDigitChars_ten_toDigits

/-- A number has a last digit, which is one of ASCII. -/
theorem exists_eq_append_digit (n : Nat) : ∃ (digits : Text) (d : Char),
    ((toString n : String) : Text) = digits ++ [.scalar d] ∧ d.isDigit = true := by
  have hchars : (toString n).toList = Nat.toDigits 10 n := by simp [Nat.toList_repr]
  obtain ⟨digits, d, hlast⟩ : ∃ digits d, Nat.toDigits 10 n = digits ++ [d] :=
    ⟨_, _, (List.dropLast_append_getLast Nat.toDigits_ne_nil).symm⟩
  refine ⟨Text.ofChars digits, d, ?_, ?_⟩
  · show Text.ofChars (toString n).toList = _
    rw [hchars, hlast, Text.ofChars, List.map_append]
    rfl
  · refine Nat.isDigit_of_mem_toDigits (b := 10) (n := n) (by omega) (by omega) ?_
    rw [hlast]
    exact List.mem_append_right _ List.mem_cons_self

/-- A numbered form is longer than the name. -/
theorem numbered_ne_self (name suffix : Text) (n : Nat) : numbered name suffix n ≠ name := by
  intro h
  obtain ⟨digits, d, hdigits, -⟩ := exists_eq_append_digit n
  have hlength := congrArg List.length h
  rw [numbered, hdigits] at hlength
  simp only [List.length_append, List.length_cons, List.length_nil] at hlength
  omega

theorem candidate_injective (name suffix : Text) : Function.Injective (candidate name suffix) := by
  intro m n h
  match m, n with
  | 0, 0 => rfl
  | 0, n + 1 => exact absurd h.symm (numbered_ne_self name suffix (n + 1))
  | m + 1, 0 => exact absurd h (numbered_ne_self name suffix (m + 1))
  | m + 1, n + 1 => exact numbered_injective name suffix h

/-! ## The search for a free form -/

/-- The search ends at that form: it is free, and the ones before it are taken. -/
def EndsAt (taken : List Text) (name suffix : Text) (n : Nat) : Prop :=
  candidate name suffix n ∉ taken ∧ ∀ m < n, candidate name suffix m ∈ taken

theorem EndsAt.eq {taken : List Text} {name suffix : Text} {m n : Nat}
    (hm : EndsAt taken name suffix m) (hn : EndsAt taken name suffix n) : m = n := by
  rcases Nat.lt_trichotomy m n with hlt | heq | hlt
  · exact absurd (hn.2 m hlt) hm.1
  · exact heq
  · exact absurd (hm.2 n hlt) hn.1

/-- Among one number more than there are names taken, one is free. -/
theorem exists_numbered_notMem (taken : List Text) (name suffix : Text) :
    ∃ n ∈ List.range' 1 (taken.length + 1), numbered name suffix n ∉ taken := by
  by_contra hall
  push Not at hall
  have hnodup : ((List.range' 1 (taken.length + 1)).map (numbered name suffix)).Nodup :=
    List.Nodup.map (numbered_injective name suffix) List.nodup_range'
  have hsub : (List.range' 1 (taken.length + 1)).map (numbered name suffix) ⊆ taken := by
    intro numberedName hm
    obtain ⟨n, hn, rfl⟩ := List.mem_map.mp hm
    exact hall n hn
  have hle := (List.subperm_of_subset hnodup hsub).length_le
  rw [List.length_map, List.length_range'] at hle
  omega

/-- **The search ends**, after no more numbers than there are names taken and one, and what it ends at
is the name that is given. -/
theorem exists_endsAt (taken : List Text) (name suffix : Text) :
    ∃ n ≤ taken.length + 1, EndsAt taken name suffix n ∧
      free taken name suffix = candidate name suffix n := by
  rw [free]
  split
  · rename_i htaken
    have htaken : name ∈ taken := by simpa using htaken
    split
    · rename_i n hfound
      obtain ⟨hfree, hrange, hbefore⟩ := List.find?_range'_eq_some.mp hfound
      obtain ⟨hpos, hlt⟩ := List.mem_range'_1.mp hrange
      refine ⟨n, by omega, ⟨?_, fun m hm => ?_⟩, (candidate_of_pos name suffix hpos).symm⟩
      · rw [candidate_of_pos name suffix hpos]
        simpa using hfree
      · cases m with
        | zero => exact htaken
        | succ m => simpa using hbefore (m + 1) (by omega) hm
    · rename_i hnone
      obtain ⟨n, hn, hfree⟩ := exists_numbered_notMem taken name suffix
      exact absurd (List.find?_eq_none.mp hnone n hn) (by simpa using hfree)
  · rename_i h
    exact ⟨0, Nat.zero_le _, ⟨by simpa using h, by simp⟩, rfl⟩

/-! ## The names given to keys -/

/-- The name from which a key's search sets out: the one that it asks for, with the suffix if that is
reserved. -/
def allowed (scope : FieldScope) (key suffix : Text) : Text :=
  if scope.reserved.contains (identifier key) then identifier key ++ suffix else identifier key

theorem assign_eq (scope : FieldScope) (key suffix : Text) :
    scope.assign key suffix =
      (free scope.taken (scope.allowed key suffix) suffix,
        { scope with taken := free scope.taken (scope.allowed key suffix) suffix :: scope.taken }) :=
  rfl

theorem assign_endsAt (scope : FieldScope) (key suffix : Text) :
    ∃ n ≤ scope.taken.length + 1, EndsAt scope.taken (scope.allowed key suffix) suffix n ∧
      (scope.assign key suffix).1 = candidate (scope.allowed key suffix) suffix n :=
  exists_endsAt scope.taken (scope.allowed key suffix) suffix

theorem assign_notMem_taken (scope : FieldScope) (key suffix : Text) :
    (scope.assign key suffix).1 ∉ scope.taken := by
  obtain ⟨n, -, hends, hname⟩ := scope.assign_endsAt key suffix
  rw [hname]
  exact hends.1

/-- The names given to keys one after another, to each with a suffix of its own. -/
def assignAll (scope : FieldScope) : List (Text × Text) → List Text
  | [] => []
  | (key, suffix) :: keys =>
    (scope.assign key suffix).1 :: (scope.assign key suffix).2.assignAll keys

/-- **A name is given once**, and none that was taken before. -/
theorem nodup_assignAll (scope : FieldScope) (keys : List (Text × Text)) :
    (scope.assignAll keys).Nodup ∧ ∀ taken ∈ scope.taken, taken ∉ scope.assignAll keys := by
  induction keys generalizing scope with
  | nil => exact ⟨List.nodup_nil, by simp [assignAll]⟩
  | cons call keys ih =>
    obtain ⟨key, suffix⟩ := call
    obtain ⟨hnodup, hfresh⟩ := ih (scope.assign key suffix).2
    rw [assignAll]
    refine ⟨List.nodup_cons.mpr ⟨hfresh _ List.mem_cons_self, hnodup⟩, fun taken ht hm => ?_⟩
    rcases List.mem_cons.mp hm with rfl | hm
    · exact scope.assign_notMem_taken key suffix ht
    · exact hfresh taken (List.mem_cons_of_mem _ ht) hm

end SampleTypes.FieldScope
