import SampleTypes.Proofs.Naming.FieldScope
import SampleTypes.Proofs.Naming.Names
import SampleTypes.Target.Basic

/-!
# Names that are not reserved

A key that asks for a reserved word gets the suffix after it, and a name that is taken gets a number;
neither form is looked up among the reserved words again. Whether keys are kept off them is thus up to
the words: **no key is given a reserved word iff none is a form that the name of some key takes**
(`FieldScope.avoidsReserved_iff`), because to ask again and again for one name is to be given all its
forms (`assignAll_replicate`).

The words of Java have no such form (`Target.avoidsReserved_java`): none ends in a digit, and none but
the underscore itself in an underscore.
-/

set_option autoImplicit false

namespace SampleTypes

namespace FieldScope

/-- No name that a new scope gives is reserved, whatever the keys are. -/
def AvoidsReserved (reserved : List Text) (suffix : Text) : Prop :=
  ∀ keys : List Text, ∀ name ∈ assignAll { reserved } (keys.map (·, suffix)), name ∉ reserved

/-- What is given to a key is a form of the name from which its search sets out. -/
theorem exists_candidate_of_mem_assignAll {scope : FieldScope} {keys : List (Text × Text)}
    {name : Text} (h : name ∈ scope.assignAll keys) :
    ∃ key suffix n, (key, suffix) ∈ keys ∧
      name = candidate (scope.allowed key suffix) suffix n := by
  induction keys generalizing scope with
  | nil => exact absurd h (by simp [assignAll])
  | cons call keys ih =>
    obtain ⟨key, suffix⟩ := call
    rcases List.mem_cons.mp h with rfl | h
    · obtain ⟨n, -, -, hname⟩ := scope.assign_endsAt key suffix
      exact ⟨key, suffix, n, List.mem_cons_self, hname⟩
    · obtain ⟨key', suffix', n, hmem, hname⟩ := ih h
      exact ⟨key', suffix', n, List.mem_cons_of_mem _ hmem, hname⟩

/-- A key that asks again and again is given the forms of its name in order. -/
theorem assignAll_replicate (reserved : List Text) (key suffix : Text) (first count : Nat) :
    assignAll { reserved, taken := ((List.range first).map
        (candidate (allowed { reserved } key suffix) suffix)).reverse }
        (List.replicate count (key, suffix)) =
      (List.range' first count).map (candidate (allowed { reserved } key suffix) suffix) := by
  induction count generalizing first with
  | zero => rfl
  | succ count ih =>
    generalize hname : allowed { reserved } key suffix = name at ih ⊢
    let scope : FieldScope :=
      { reserved, taken := ((List.range first).map (candidate name suffix)).reverse }
    -- The forms before are taken and no other is, so the search ends at this one.
    have hends : EndsAt scope.taken name suffix first := by
      refine ⟨fun hmem => ?_, fun m hm => ?_⟩
      · obtain ⟨m, hm, heq⟩ := List.mem_map.mp (List.mem_reverse.mp hmem)
        rw [candidate_injective name suffix heq] at hm
        exact Nat.lt_irrefl first (List.mem_range.mp hm)
      · exact List.mem_reverse.mpr (List.mem_map_of_mem (List.mem_range.mpr hm))
    have hgiven : free scope.taken name suffix = candidate name suffix first := by
      obtain ⟨n, -, hn, hfree⟩ := exists_endsAt scope.taken name suffix
      rw [hfree, hn.eq hends]
    have hassign : scope.assign key suffix = (candidate name suffix first,
        { reserved, taken := ((List.range (first + 1)).map (candidate name suffix)).reverse }) := by
      rw [assign_eq, show scope.allowed key suffix = name from hname, hgiven, List.range_succ,
        List.map_append, List.reverse_append]
      rfl
    show scope.assignAll ((key, suffix) :: List.replicate count (key, suffix)) = _
    rw [assignAll, hassign, ih, List.range'_succ, List.map_cons]

theorem avoidsReserved_iff_candidates {reserved : List Text} {suffix : Text} :
    AvoidsReserved reserved suffix ↔
      ∀ key n, candidate (allowed { reserved } key suffix) suffix n ∉ reserved := by
  constructor
  · intro h key n
    -- The key is asked for until this form of its name is given.
    have hgiven := assignAll_replicate reserved key suffix 0 (n + 1)
    refine h (List.replicate (n + 1) key) _ ?_
    rw [List.map_replicate]
    refine hgiven.symm ▸ List.mem_map_of_mem ?_
    exact List.mem_range'_1.mpr ⟨Nat.zero_le n, by omega⟩
  · intro h keys name hname
    obtain ⟨key, suffix', n, hmem, rfl⟩ := exists_candidate_of_mem_assignAll hname
    obtain ⟨asked, -, hcall⟩ := List.mem_map.mp hmem
    obtain rfl : suffix = suffix' := (Prod.mk.inj hcall).2
    exact h key n

/-- **No key is given a reserved word iff none of them is a reserved word with the suffix, and none a
numbered form of what a key asks for.** -/
theorem avoidsReserved_iff (reserved : List Text) (suffix : Text) :
    AvoidsReserved reserved suffix ↔
      ∀ key, (identifier key ∈ reserved → identifier key ++ suffix ∉ reserved) ∧
        ∀ n, 1 ≤ n → numbered (allowed { reserved } key suffix) suffix n ∉ reserved := by
  rw [avoidsReserved_iff_candidates]
  refine forall_congr' fun key => ⟨fun h => ⟨fun hreserved => ?_, fun n hn => ?_⟩, fun h n => ?_⟩
  · have hescaped := h 0
    rwa [candidate_zero, allowed, if_pos (by simpa using hreserved)] at hescaped
  · rw [← candidate_of_pos _ _ hn]
    exact h n
  · cases n with
    | succ n => exact h.2 (n + 1) (by omega)
    | zero =>
      rw [candidate_zero, allowed]
      split
      · rename_i hreserved
        exact h.1 (by simpa using hreserved)
      · rename_i hreserved
        simpa using hreserved

/-- The suffix makes a reserved word of another, and the number one of a name that is none. -/
theorem not_avoidsReserved_of_forms :
    assignAll { reserved := ["class", "class_", "id_1"] }
        [(("class" : Text), ("_" : Text)), (("id" : Text), ("_" : Text)),
          (("id" : Text), ("_" : Text))] = ["class_", "id", "id_1"] ∧
      ¬ AvoidsReserved ["class", "class_", "id_1"] ("_" : Text) := by
  refine ⟨by decide, fun h => ?_⟩
  exact h ["class"] ("class_" : Text) (by decide) (by decide)

end FieldScope

namespace Target

open FieldScope

/-- No word of Java ends in a digit, and none but the underscore itself in an underscore. -/
theorem javaReserved_ends : ∀ word ∈ javaReserved, ∀ c ∈ word.getLast?,
    c.toChar.isDigit = false ∧ (c = .scalar '_' → word = ("_" : Text)) := by
  decide

theorem avoidsReserved_java : AvoidsReserved javaReserved ("_" : Text) := by
  rw [avoidsReserved_iff_candidates]
  intro key n hmem
  cases n with
  | zero =>
    rw [candidate_zero, allowed] at hmem
    split at hmem
    · have halone : identifier key ++ ("_" : Text) = [] ++ ("_" : Text) :=
        (javaReserved_ends _ hmem _ List.getLast?_concat).2 rfl
      exact (isName_identifier key).1 (List.append_cancel_right halone)
    · rename_i hreserved
      exact hreserved (by simpa using hmem)
  | succ n =>
    obtain ⟨digits, d, hdigits, hd⟩ := exists_eq_append_digit (n + 1)
    rw [candidate_succ, numbered, hdigits, ← List.append_assoc] at hmem
    have hletter : d.isDigit = false := (javaReserved_ends _ hmem _ List.getLast?_concat).1
    exact absurd hd (by simp [hletter])

end Target

end SampleTypes
