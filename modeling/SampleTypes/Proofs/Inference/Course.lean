import SampleTypes.Emission.Order
import SampleTypes.Proofs.Inference.Faithful

/-!
# The course of a walk

What a walk does on its way, beside what it ends with: the states it passes through (`Walk.course`),
the declaration that a step closes (`Walk.closing?`), and the reference that a step adds to an
object that is still open (`Walk.backReference?`). All three read the state and nothing else.

How much of a declaration's dependencies is known when `i` members of its object were walked does
not depend on the walk at all, and is `SampledObject.noted`.
-/

set_option autoImplicit false

namespace SampleTypes

namespace Walk

/-- The states before each step, until no object is open, at most so many. -/
def course (style : NamingStyle) : Nat → Walk → List Walk
  | 0, _ => []
  | steps + 1, walk =>
    if walk.frames.isEmpty then [] else walk :: course style steps (step style walk)

/-- The states before each step of the walk through a sample. -/
def states (style : NamingStyle) (rootName : Text) (value : Json) : List Walk :=
  course style (start style rootName value).weight (start style rootName value)

/-- The declaration that the next step closes. -/
def closing? (walk : Walk) : Option Declaration :=
  match walk.frames with
  | ⟨name, _, []⟩ :: _ => walk.findings.shapes.find? name
  | _ => none

/-- The reference of the field that the next step adds, if it is one to an open object. -/
def backReference? (style : NamingStyle) (walk : Walk) : Option Edge :=
  match walk.frames with
  | ⟨name, _, (key, value) :: _⟩ :: _ =>
    match (meet style value (.ofKey key) true walk).1.reference? with
    | some target => if target ∈ walk.openNames then some (name, target) else none
    | none => none
  | _ => none

theorem backReference?_of_close {style : NamingStyle} {walk : Walk} {name : Text}
    {scope : FieldScope} {outer : List Frame} (hf : walk.frames = ⟨name, scope, []⟩ :: outer) :
    walk.backReference? style = none := by
  rw [backReference?, hf]

theorem closing?_of_member {walk : Walk} {name : Text} {scope : FieldScope} {key : Text}
    {value : Json} {members : List (Text × Json)} {outer : List Frame}
    (hf : walk.frames = ⟨name, scope, (key, value) :: members⟩ :: outer) :
    walk.closing? = none := by
  rw [closing?, hf]

theorem backReference?_eq_some_iff {style : NamingStyle} {walk : Walk} {name : Text}
    {scope : FieldScope} {key : Text} {value : Json} {members : List (Text × Json)}
    {outer : List Frame} (hf : walk.frames = ⟨name, scope, (key, value) :: members⟩ :: outer)
    {e : Edge} : walk.backReference? style = some e ↔
      e.1 = name ∧ memberName? style (key, value) = some e.2 ∧ e.2 ∈ walk.openNames := by
  obtain ⟨source, target⟩ := e
  have href : (meet style value (.ofKey key) true walk).1.reference? =
      memberName? style (key, value) := by
    rw [meet_eq]
    exact reference?_sampledType style true value (.ofKey key)
  rw [backReference?, hf]
  simp only [href]
  cases memberName? style (key, value) with
  | none => simp
  | some name' =>
    by_cases hopen : name' ∈ walk.openNames
    · simp only [if_pos hopen, Option.some.injEq, Prod.mk.injEq]
      constructor
      · rintro ⟨rfl, rfl⟩
        exact ⟨rfl, rfl, hopen⟩
      · rintro ⟨rfl, rfl, _⟩
        exact ⟨rfl, rfl⟩
    · simp only [if_neg hopen, Option.some.injEq]
      refine iff_of_false (by simp) ?_
      rintro ⟨_, rfl, h⟩
      exact hopen h

theorem backReference?_of_forall_notMem {style : NamingStyle} {walk : Walk} {name : Text}
    {scope : FieldScope} {key : Text} {value : Json} {members : List (Text × Json)}
    {outer : List Frame} (hf : walk.frames = ⟨name, scope, (key, value) :: members⟩ :: outer)
    (hno : ∀ target, memberName? style (key, value) = some target → target ∉ walk.openNames) :
    walk.backReference? style = none := by
  refine Option.eq_none_iff_forall_ne_some.mpr fun e he => ?_
  obtain ⟨_, href, hopen⟩ := (backReference?_eq_some_iff hf).mp he
  exact hno e.2 href hopen

/-- What every move preserves holds all along the course. -/
theorem course_induction {style : NamingStyle} {P : Walk → Prop}
    (hmove : ∀ walk walk', P walk → Move style walk walk' → P walk') (n : Nat) {walk : Walk}
    (h : P walk) : ∀ walk' ∈ course style n walk, P walk' := by
  induction n generalizing walk with
  | zero => intro walk' hw; exact absurd hw (by simp [course])
  | succ n ih =>
    intro walk' hw
    rw [course] at hw
    split at hw
    · exact absurd hw (by simp)
    · rename_i hf
      rcases List.mem_cons.mp hw with rfl | hw
      · exact h
      · exact ih (hmove _ _ h (move_step (by simpa using hf))) walk' hw

theorem progress_of_mem_states {style : NamingStyle} {rootName : Text} {value : Json} {walk : Walk}
    (h : walk ∈ states style rootName value) : Progress style (rootObject rootName value) walk := by
  have hboth : walk.Sound ∧ Progress style (rootObject rootName value) walk := by
    refine course_induction
      (P := fun walk => walk.Sound ∧ Progress style (rootObject rootName value) walk) ?_ _ ?_ walk h
    · intro walk walk' hw hm
      exact ⟨hw.1.move hm, hw.2.move hw.1 hm⟩
    · exact ⟨sound_start style rootName value, Progress.start style rootName value⟩
  exact hboth.2

end Walk

/-! ## The dependencies so far -/

namespace SampledObject

/-- The dependencies to which the first `i` members of an object give rise. -/
def noted (style : NamingStyle) (o : SampledObject) (i : Nat) : List Text :=
  ((o.members.take i).map (memberName? style)).foldl Declaration.noteDependency []

theorem noted_succ {style : NamingStyle} {o : SampledObject} {i : Nat} {name : Text}
    {scope : FieldScope} {key : Text} {value : Json} {members : List (Text × Json)}
    (h : o.frame style i = ⟨name, scope, (key, value) :: members⟩) :
    o.noted style (i + 1) =
      Declaration.noteDependency (o.noted style i) (memberName? style (key, value)) := by
  have hi : o.members[i]? = some (key, value) := by
    rw [← List.head?_drop, (Frame.mk.inj h).2.2]; rfl
  simp [noted, List.take_add_one, hi]

/-- When all members were walked, all dependencies are known. -/
theorem noted_of_close {style : NamingStyle} {o : SampledObject} {i : Nat} {name : Text}
    {scope : FieldScope} (h : o.frame style i = ⟨name, scope, []⟩) :
    o.noted style i = (o.declaration style).dependencies := by
  have htake : o.members.take i = o.members :=
    List.take_of_length_le (List.drop_eq_nil_iff.mp (Frame.mk.inj h).2.2)
  rw [noted, htake, declaration, Declaration.dependencies_addFields, references_memberFields]

theorem noted_isPrefix (style : NamingStyle) (o : SampledObject) (i : Nat) :
    o.noted style i <+: (o.declaration style).dependencies := by
  rw [declaration, Declaration.dependencies_addFields, references_memberFields,
    ← List.take_append_drop i o.members, List.map_append, List.foldl_append]
  exact Declaration.prefix_foldl_noteDependency _ _

/-- A name that is new among the first `i` dependencies is the next one. -/
theorem pending_of_notMem_noted {style : NamingStyle} {o : SampledObject} {i : Nat} {name : Text}
    {scope : FieldScope} {key : Text} {value : Json} {members : List (Text × Json)}
    (h : o.frame style i = ⟨name, scope, (key, value) :: members⟩) {target : Text}
    (href : memberName? style (key, value) = some target) (hnew : target ∉ o.noted style i)
    {pending : List Text}
    (hdeps : (o.declaration style).dependencies = o.noted style i ++ pending) :
    ∃ rest, pending = target :: rest ∧
      (o.declaration style).dependencies = o.noted style (i + 1) ++ rest := by
  -- All dependencies begin with those noted so far, and then with those noted after one more member.
  have hnext : o.noted style (i + 1) = o.noted style i ++ [target] := by
    rw [noted_succ h, href, Declaration.noteDependency_of_notMem hnew]
  obtain ⟨rest, hrest⟩ := o.noted_isPrefix style (i + 1)
  refine ⟨rest, ?_, hrest.symm⟩
  rw [← hrest, hnext, List.append_assoc] at hdeps
  exact (List.append_cancel_left hdeps).symm

end SampledObject

end SampleTypes
