import SampleTypes.Proofs.Inference.Course

/-!
# Walks with more members

A walk through an object that has more members at its end takes the same steps as one through the object
without them, until that one would close the object. The two walks differ in nothing but the members
that the outermost object has still to give (`Walk.lengthen`), and no step looks at them before it takes
them. So **up to that point they close the same objects and refer to the same open ones**
(`Walk.exists_parting`), and what the longer one does afterwards comes on top.
-/

set_option autoImplicit false

namespace SampleTypes.Walk

variable {style : NamingStyle} {walk : Walk}

/-! ## The outermost object -/

/-- Frames with more members at the end of the outermost one. -/
def lengthenFrames (more : List (Text × Json)) : List Frame → List Frame
  | [] => []
  | [frame] => [{ frame with members := frame.members ++ more }]
  | frame :: next :: outer => frame :: lengthenFrames more (next :: outer)

/-- The walk with more members at the end of its outermost object. -/
def lengthen (more : List (Text × Json)) (walk : Walk) : Walk :=
  { walk with frames := lengthenFrames more walk.frames }

/-- The next step closes the outermost object. -/
def IsEnding (walk : Walk) : Prop := ∃ name scope, walk.frames = [⟨name, scope, []⟩]

variable (more : List (Text × Json))

theorem lengthenFrames_cons {frame : Frame} {outer : List Frame} (h : outer ≠ []) :
    lengthenFrames more (frame :: outer) = frame :: lengthenFrames more outer := by
  cases outer with
  | nil => exact absurd rfl h
  | cons next outer => rfl

theorem map_name_lengthenFrames (frames : List Frame) :
    (lengthenFrames more frames).map (·.name) = frames.map (·.name) := by
  induction frames with
  | nil => rfl
  | cons frame outer ih =>
    cases outer with
    | nil => rfl
    | cons next outer => exact congrArg (frame.name :: ·) ih

/-- Whether a frame is the outermost or not, its next member is the same, and so is all that comes after
it. -/
theorem exists_lengthenFrames_member (name : Text) (scope scope' : FieldScope) (key : Text)
    (value : Json) (members : List (Text × Json)) (outer : List Frame) :
    ∃ members' outer', lengthenFrames more (⟨name, scope, (key, value) :: members⟩ :: outer) =
        ⟨name, scope, (key, value) :: members'⟩ :: outer' ∧
      lengthenFrames more (⟨name, scope', members⟩ :: outer) = ⟨name, scope', members'⟩ :: outer' := by
  cases outer with
  | nil => exact ⟨members ++ more, [], rfl, rfl⟩
  | cons next outer => exact ⟨members, lengthenFrames more (next :: outer), rfl, rfl⟩

theorem afterMeet_lengthen (h : walk.frames ≠ []) (found : Option SampledObject) :
    afterMeet style (walk.lengthen more) found = (afterMeet style walk found).lengthen more := by
  cases found with
  | none => rfl
  | some o =>
    rw [afterMeet, afterMeet]
    by_cases hc : walk.findings.shapes.contains (o.name style) = true
    · rw [if_pos hc, if_pos (show (walk.lengthen more).findings.shapes.contains _ = true from hc)]
      rfl
    · rw [if_neg hc, if_neg (show ¬ (walk.lengthen more).findings.shapes.contains _ = true from hc)]
      simp only [lengthen, lengthenFrames_cons more h]

/-! ## In step -/

/-- **Unless the outermost object is closed, more members make no difference to a step**: not to what it
does, nor to what it closes, nor to the reference that it adds. -/
theorem inStep_lengthen (style : NamingStyle) (h : ¬ walk.IsEnding) :
    step style (walk.lengthen more) = (step style walk).lengthen more ∧
      (walk.lengthen more).closing? = walk.closing? ∧
      (walk.lengthen more).backReference? style = walk.backReference? style := by
  obtain ⟨findings, frames⟩ := walk
  -- More members show in the outermost frame alone, and there only once its own have been taken.
  match frames with
  | [] => exact ⟨rfl, rfl, rfl⟩
  | [⟨name, scope, []⟩] => exact absurd ⟨name, scope, rfl⟩ h
  | ⟨name, scope, []⟩ :: next :: outer => exact ⟨rfl, rfl, rfl⟩
  | ⟨name, scope, (key, value) :: members⟩ :: outer =>
    obtain ⟨members', outer', hbefore, hafter⟩ := exists_lengthenFrames_member more name scope
      (scope.assign key).2 key value members outer
    generalize hwalk : (⟨findings, ⟨name, scope, (key, value) :: members⟩ :: outer⟩ : Walk) = walk
    have hf : walk.frames = ⟨name, scope, (key, value) :: members⟩ :: outer := by rw [← hwalk]
    have hf' : (walk.lengthen more).frames = ⟨name, scope, (key, value) :: members'⟩ :: outer' := by
      rw [lengthen, hf, hbefore]
    refine ⟨?_, ?_, ?_⟩
    · let taken : Walk := { walk with frames := ⟨name, (scope.assign key).2, members⟩ :: outer }
      have hmet : afterMeet style (taken.lengthen more) (SampledObject.of? value (.ofKey key) true) =
          (afterMeet style taken (SampledObject.of? value (.ofKey key) true)).lengthen more :=
        afterMeet_lengthen more (List.cons_ne_nil _ _) _
      rw [lengthen, hafter] at hmet
      rw [step_member hf', step_member hf]
      exact congrArg (fun met : Walk => (⟨met.findings.addField name
        (memberField style scope key value), met.frames⟩ : Walk)) hmet
    · rw [closing?_of_member hf', closing?_of_member hf]
    · have hopen : (walk.lengthen more).openNames = walk.openNames :=
        map_name_lengthenFrames more walk.frames
      refine Option.ext fun e => ?_
      rw [backReference?_eq_some_iff hf', backReference?_eq_some_iff hf, hopen]

theorem frames_step_ne_nil (h : walk.frames ≠ []) (hending : ¬ walk.IsEnding) :
    (step style walk).frames ≠ [] := by
  have hmove : Move style walk (step style walk) := move_step h
  generalize step style walk = walk' at hmove ⊢
  cases hmove with
  | @close name scope outer _ hf =>
    rintro rfl
    exact hending ⟨name, scope, hf⟩
  | keep _ _ _ => exact List.cons_ne_nil _ _
  | descend _ _ _ _ => exact List.cons_ne_nil _ _

/-! ## To the end -/

theorem course_of_done (n : Nat) (h : walk.frames = []) : course style n walk = [] := by
  cases n with
  | zero => rfl
  | succ n => rw [course, h, List.isEmpty_nil, if_pos rfl]

/-- A walk that has enough steps passes through the same states with more of them. -/
theorem course_eq {m n : Nat} (hm : walk.weight ≤ m) (hn : walk.weight ≤ n) :
    course style m walk = course style n walk := by
  induction m generalizing walk n with
  | zero =>
    have hdone : walk.frames = [] := frames_run style 0 hm
    rw [course_of_done 0 hdone, course_of_done n hdone]
  | succ m ih =>
    by_cases hdone : walk.frames = []
    · rw [course_of_done _ hdone, course_of_done n hdone]
    · have hmove : Move style walk (step style walk) := move_step hdone
      have hlt := hmove.weight_lt
      cases n with
      | zero => omega
      | succ n => rw [course, course, ih (n := n) (by omega) (by omega)]

/-- The states before each step to the end of the walk. -/
def wholeCourse (style : NamingStyle) (walk : Walk) : List Walk := course style walk.weight walk

theorem wholeCourse_of_going (h : walk.frames ≠ []) :
    wholeCourse style walk = walk :: wholeCourse style (step style walk) := by
  have hmove : Move style walk (step style walk) := move_step h
  have hlt := hmove.weight_lt
  rw [wholeCourse, course_eq (Nat.le_refl _) (Nat.le_succ walk.weight), course,
    if_neg (by simpa using h), wholeCourse, course_eq (Nat.le_of_lt hlt) (Nat.le_refl _)]

theorem wholeCourse_of_isEnding (h : walk.IsEnding) : wholeCourse style walk = [walk] := by
  obtain ⟨name, scope, hf⟩ := h
  rw [wholeCourse_of_going (by simp [hf]), step_close hf, wholeCourse, course_of_done _ rfl]

/-- **Where the walks part.** A walk comes to a state in which it closes its outermost object, and none
before it does; with more members, it passes through the same states to that one. -/
theorem exists_parting (style : NamingStyle) (walk : Walk) (h : walk.frames ≠ []) :
    ∃ before last, last.IsEnding ∧ (∀ w ∈ before, ¬ w.IsEnding) ∧
      wholeCourse style walk = before ++ [last] ∧
      ∀ more, wholeCourse style (walk.lengthen more) =
        before.map (lengthen more) ++ wholeCourse style (last.lengthen more) := by
  -- Each step lowers the weight, so the induction is on it; the number of steps comes with it.
  induction hweight : walk.weight using Nat.strong_induction_on generalizing walk with
  | _ weight ih =>
    by_cases hending : walk.IsEnding
    · exact ⟨[], walk, hending, by simp, wholeCourse_of_isEnding hending, fun more => rfl⟩
    · have hmove : Move style walk (step style walk) := move_step h
      have hgoing : (step style walk).frames ≠ [] := frames_step_ne_nil h hending
      obtain ⟨before, last, hlast, hbefore, hcourse, hlengthened⟩ :=
        ih _ (hweight ▸ hmove.weight_lt) (step style walk) hgoing rfl
      refine ⟨walk :: before, last, hlast, List.forall_mem_cons.mpr ⟨hending, hbefore⟩, ?_,
        fun more => ?_⟩
      · rw [wholeCourse_of_going h, hcourse, List.cons_append]
      · have hopen : (walk.lengthen more).frames ≠ [] := by
          intro hnil
          have hnames := map_name_lengthenFrames more walk.frames
          rw [show lengthenFrames more walk.frames = [] from hnil] at hnames
          exact h (List.map_eq_nil_iff.mp hnames.symm)
        rw [wholeCourse_of_going hopen, (inStep_lengthen more style hending).1, hlengthened more,
          List.map_cons, List.cons_append]

end SampleTypes.Walk
