import Mathlib.Data.List.Nodup
import SampleTypes.Proofs.Inference.Sampling
import SampleTypes.Proofs.Runs

/-!
# The walk, move by move

`Walk.step` has three outcomes, and `Walk.Move` names them: the innermost object is closed, a member
that declares nothing gives its field, or a member declares an object, which becomes the innermost
one. What is proved of the walk below and in the files after this one is a case split on it. The
trace is left open, as nothing depends on it.

**What is stored for an open object is a part of its declaration.** The rest is known already: it is
the fields of the members that are still to be walked. `Walk.completed` adds them, so that every
stored declaration is shown as it will be, and then a move has no effect but that a whole
declaration may be added at the end (`Sound.completed_descend`).
-/

set_option autoImplicit false

namespace SampleTypes

/-- The frame of an object of which `i` members were walked. -/
def SampledObject.frame (style : NamingStyle) (o : SampledObject) (i : Nat) : Frame :=
  ⟨o.name style, scopeAfter style.fieldScope (o.members.take i), o.members.drop i⟩

/-- The field that a member gives. -/
def memberField (style : NamingStyle) (scope : FieldScope) (key : Text) (value : Json) : Field :=
  ⟨(scope.assign key).1, key, sampledType style true value (.ofKey key)⟩

/-- The frame of an object after its next member. -/
theorem SampledObject.frame_succ {style : NamingStyle} {o : SampledObject} {i : Nat} {name : Text}
    {scope : FieldScope} {key : Text} {value : Json} {members : List (Text × Json)}
    (h : o.frame style i = ⟨name, scope, (key, value) :: members⟩) :
    o.frame style (i + 1) = ⟨name, (scope.assign key).2, members⟩ := by
  obtain ⟨rfl, rfl, hdrop⟩ := Frame.mk.inj h
  have hi : o.members[i]? = some (key, value) := by
    rw [← List.head?_drop, hdrop]; rfl
  have htail : o.members.drop (i + 1) = members := by
    rw [← List.tail_drop, hdrop]; rfl
  simp [frame, scopeAfter, List.take_add_one, hi, htail]

/-- A frame has the name of the declaration that it fills. -/
theorem SampledObject.name_declaration_of_frame {style : NamingStyle} {o : SampledObject} {i : Nat}
    {name : Text} {scope : FieldScope} {members : List (Text × Json)}
    (h : o.frame style i = ⟨name, scope, members⟩) : (o.declaration style).name = name := by
  rw [o.name_declaration style]
  exact congrArg Frame.name h

/-- The object by which the next member of a frame is judged. -/
theorem SampledObject.member?_of_frame {style : NamingStyle} {o : SampledObject} {i : Nat}
    {name : Text} {scope : FieldScope} {key : Text} {value : Json} {members : List (Text × Json)}
    (h : o.frame style i = ⟨name, scope, (key, value) :: members⟩) :
    o.member? i = SampledObject.of? value (.ofKey key) true := by
  have hi : o.members[i]? = some (key, value) := by
    rw [← List.head?_drop, (Frame.mk.inj h).2.2]; rfl
  rw [member?, hi]; rfl

/-! ## One step -/

namespace Walk

/-- The findings and frames after a value was looked at. -/
def afterMeet (style : NamingStyle) (walk : Walk) : Option SampledObject → Walk
  | none => walk
  | some o =>
    if walk.findings.shapes.contains (o.name style) then
      { walk with findings := walk.findings.note (.reused (o.name style)) }
    else
      { findings := walk.findings.declare (o.name style), frames := o.frame style 0 :: walk.frames }

/-- To look at a value is to find its type and the object it is judged by. -/
theorem meet_eq (style : NamingStyle) (fromKey : Bool) (walk : Walk) :
    ∀ (value : Json) (place : Place), meet style value place fromKey walk =
      (sampledType style fromKey value place,
        walk.afterMeet style (SampledObject.of? value place fromKey))
  | .arr (first :: rest), place => by
    have ih := meet_eq style fromKey walk first place.item
    -- One more array around a value is one more list around its type, and all else is the same.
    have hnest : meet style (.arr (first :: rest)) place fromKey walk =
        (.list (meet style first place.item fromKey walk).1,
          (meet style first place.item fromKey walk).2) := by
      simp only [meet, Sampled.of]
      split
      · by_cases hc : walk.findings.shapes.contains
            (style.declarationName (Sampled.of first place.item).place.label fromKey) = true
        · simp only [hc, if_true, FieldType.nested]
        · simp only [hc, if_false, FieldType.nested, Bool.false_eq_true]
      · rfl
    rw [hnest, ih]
    rfl
  | .obj members, place => by
    simp only [SampledObject.of?, meet, Sampled.of, afterMeet, SampledObject.name]
    by_cases hc : walk.findings.shapes.contains (style.declarationName place.label fromKey) = true
    · simp only [hc, if_true]; rfl
    · simp only [hc, if_false, Bool.false_eq_true]; rfl
  | .null, _ | .bool _, _ | .str _, _ | .int _, _ | .float _, _ | .arr [], _ => rfl

theorem step_of_done {style : NamingStyle} {walk : Walk} (h : walk.frames = []) :
    step style walk = walk := by
  rw [step, h]

theorem step_close {style : NamingStyle} {walk : Walk} {name : Text} {scope : FieldScope}
    {outer : List Frame} (hf : walk.frames = ⟨name, scope, []⟩ :: outer) :
    step style walk = { findings := walk.findings.noteFilled name, frames := outer } := by
  rw [step, hf]

/-- A member gives its field after its value was looked at. -/
theorem step_member {style : NamingStyle} {walk : Walk} {name : Text} {scope : FieldScope}
    {key : Text} {value : Json} {members : List (Text × Json)} {outer : List Frame}
    (hf : walk.frames = ⟨name, scope, (key, value) :: members⟩ :: outer) :
    step style walk =
      { findings := (afterMeet style
          { walk with frames := ⟨name, (scope.assign key).2, members⟩ :: outer }
          (SampledObject.of? value (.ofKey key) true)).findings.addField name
            (memberField style scope key value),
        frames := (afterMeet style
          { walk with frames := ⟨name, (scope.assign key).2, members⟩ :: outer }
          (SampledObject.of? value (.ofKey key) true)).frames } := by
  simp only [step, hf, meet_eq]
  rfl

/-- What a step of a walk with open objects can come to. -/
inductive Move (style : NamingStyle) (walk : Walk) : Walk → Prop
  /-- The innermost object has no members left. -/
  | close {name : Text} {scope : FieldScope} {outer : List Frame} (trace : List InferenceEvent)
      (frames : walk.frames = ⟨name, scope, []⟩ :: outer) :
      Move style walk ⟨⟨walk.findings.shapes, trace⟩, outer⟩
  /-- The next member gives a field, and declares nothing. -/
  | keep {name : Text} {scope : FieldScope} {key : Text} {value : Json}
      {members : List (Text × Json)} {outer : List Frame} (trace : List InferenceEvent)
      (frames : walk.frames = ⟨name, scope, (key, value) :: members⟩ :: outer)
      (known : ∀ o, SampledObject.of? value (.ofKey key) true = some o →
        o.name style ∈ walk.findings.shapes.names) :
      Move style walk
        ⟨⟨walk.findings.shapes.addField name (memberField style scope key value), trace⟩,
          ⟨name, (scope.assign key).2, members⟩ :: outer⟩
  /-- The next member is judged by an object whose name is free: it gives a field, and the object is
  declared and opened. -/
  | descend {name : Text} {scope : FieldScope} {key : Text} {value : Json}
      {members : List (Text × Json)} {outer : List Frame} {o : SampledObject}
      (trace : List InferenceEvent)
      (frames : walk.frames = ⟨name, scope, (key, value) :: members⟩ :: outer)
      (found : SampledObject.of? value (.ofKey key) true = some o)
      (free : o.name style ∉ walk.findings.shapes.names) :
      Move style walk
        ⟨⟨(walk.findings.shapes.insertIfNew { name := o.name style }).addField name
            (memberField style scope key value), trace⟩,
          o.frame style 0 :: ⟨name, (scope.assign key).2, members⟩ :: outer⟩

theorem move_step {style : NamingStyle} {walk : Walk} (h : walk.frames ≠ []) :
    Move style walk (step style walk) := by
  match hf : walk.frames with
  | [] => exact absurd hf h
  | ⟨name, scope, []⟩ :: outer =>
    rw [step, hf]
    exact .close _ hf
  | ⟨name, scope, (key, value) :: members⟩ :: outer =>
    simp only [step, hf, meet_eq]
    cases ho : SampledObject.of? value (.ofKey key) true with
    | none => exact .keep _ hf fun o h => by rw [ho] at h; exact absurd h (by simp)
    | some o =>
      rw [afterMeet]
      dsimp only
      by_cases hc : walk.findings.shapes.contains (o.name style) = true
      · rw [if_pos hc]
        refine .keep _ hf fun o' h => ?_
        rw [ho] at h
        exact Option.some.inj h ▸ Shapes.contains_iff.mp hc
      · rw [if_neg hc]
        exact .descend _ hf ho (mt Shapes.contains_iff.mpr hc)

/-! ## Runs -/

/-- The objects in a value weigh no more than the value. -/
theorem membersWeight_lt_of_of? {fromKey : Bool} {o : SampledObject} :
    ∀ {value : Json} {place : Place}, SampledObject.of? value place fromKey = some o →
      Json.membersWeight o.members < value.weight
  | .arr (first :: rest), _, h => by
    rw [SampledObject.of?] at h
    have := membersWeight_lt_of_of? h
    rw [Json.weight, Json.itemsWeight]
    omega
  | .obj members, _, h => by
    rw [SampledObject.of?] at h
    obtain rfl := Option.some.inj h
    rw [Json.weight]
    exact Nat.lt_succ_self _
  | .null, _, h | .bool _, _, h | .str _, _, h | .int _, _, h | .float _, _, h
  | .arr [], _, h => absurd h (by simp [SampledObject.of?])

theorem Move.weight_lt {style : NamingStyle} {walk walk' : Walk} (h : Move style walk walk') :
    walk'.weight < walk.weight := by
  cases h with
  | close _ hf => simp [weight, hf, Json.membersWeight]
  | keep _ hf _ => simp only [weight, hf, List.foldr_cons, Json.membersWeight]; omega
  | descend _ hf ho _ =>
    have := membersWeight_lt_of_of? ho
    simp only [weight, hf, List.foldr_cons, Json.membersWeight, SampledObject.frame, List.drop_zero]
    omega

theorem frames_run (style : NamingStyle) (n : Nat) {walk : Walk} (h : walk.weight ≤ n) :
    (run style n walk).frames = [] := by
  induction n generalizing walk with
  | zero =>
    rw [run]
    cases hf : walk.frames with
    | nil => rfl
    | cons frame outer => simp only [weight, hf, List.foldr_cons] at h; omega
  | succ n ih =>
    rw [run]
    split
    · rename_i hd
      exact List.isEmpty_iff.mp hd
    · rename_i hf
      have hmove : Move style walk (step style walk) := move_step (by simpa using hf)
      have hlt := hmove.weight_lt
      exact ih (by omega)

theorem leads_run (style : NamingStyle) (n : Nat) (walk : Walk) :
    Leads (step style) walk (run style n walk) := by
  induction n generalizing walk with
  | zero => exact .refl walk
  | succ n ih =>
    rw [run]
    split
    · exact .refl walk
    · exact .of_step rfl (ih _)

/-- Steps that close all open objects have found what the walk finds. -/
theorem finish_eq_of_leads {style : NamingStyle} {walk walk' : Walk}
    (h : Leads (step style) walk walk') (hdone : walk'.frames = []) :
    walk.finish style = walk'.findings := by
  have hends : (run style walk.weight walk).frames = [] := frames_run style _ (Nat.le_refl _)
  have hsame : run style walk.weight walk = walk' :=
    (leads_run style _ walk).eq_of_fixed h (step_of_done hends) (step_of_done hdone)
  rw [finish, hsame]

/-- What every move preserves holds after a run. -/
theorem run_induction {style : NamingStyle} {P : Walk → Prop}
    (hmove : ∀ walk walk', P walk → Move style walk walk' → P walk') (n : Nat) {walk : Walk}
    (h : P walk) : P (run style n walk) := by
  induction n generalizing walk with
  | zero => exact h
  | succ n ih =>
    rw [run]
    split
    · exact h
    · rename_i hf
      exact ih (hmove _ _ h (move_step (by simpa using hf)))

/-! ## Stores and frames -/

/-- The names of the open objects, the innermost first. -/
def openNames (walk : Walk) : List Text := walk.frames.map (·.name)

/-- What holds of every state of a walk: the open objects are stored, each under a name of its own.
-/
structure Sound (walk : Walk) : Prop where
  built : walk.findings.shapes.Built
  opened : walk.openNames ⊆ walk.findings.shapes.names
  once : walk.openNames.Nodup

/-- The names after an object was declared. -/
theorem names_declare {shapes : Shapes} {name : Text} (h : name ∉ shapes.names) :
    (shapes.insertIfNew { name }).names = shapes.names ++ [name] := by
  rw [Shapes.names, Shapes.insertIfNew_of_free h, List.map_append]; rfl

theorem Sound.move {style : NamingStyle} {walk walk' : Walk} (h : Sound walk)
    (hm : Move style walk walk') : Sound walk' := by
  obtain ⟨hb, ho, hn⟩ := h
  cases hm with
  | close _ hf =>
    rw [openNames, hf] at ho hn
    exact ⟨hb, fun _ hm => ho (List.mem_cons_of_mem _ hm), (List.nodup_cons.mp hn).2⟩
  | keep _ hf _ =>
    rw [openNames, hf] at ho hn
    refine ⟨hb.addField _ _, ?_, hn⟩
    rw [Shapes.names_addField]
    exact ho
  | @descend name scope key value members outer o _ hf _ hfree =>
    rw [openNames, hf] at ho hn
    refine ⟨(hb.insert (.empty _)).addField _ _, ?_,
      List.nodup_cons.mpr ⟨fun hm => hfree (ho hm), hn⟩⟩
    rw [Shapes.names_addField, names_declare hfree]
    refine List.cons_subset.mpr ⟨by simp [SampledObject.frame], fun other hother => ?_⟩
    exact List.mem_append_left _ (ho hother)

end Walk

/-! ## The store as it will be -/

/-- A declaration with the fields that the members of its frame have still to give; any other
declaration is left as it is. -/
def Frame.fill (style : NamingStyle) (frame : Frame) (d : Declaration) : Declaration :=
  if d.name = frame.name then
    (memberFields style frame.scope frame.members).foldl Declaration.addField d
  else d

/-- A declaration with all that the frames have still to give. -/
def fillAll (style : NamingStyle) (frames : List Frame) (d : Declaration) : Declaration :=
  frames.foldl (fun d frame => frame.fill style d) d

theorem Frame.name_fill (style : NamingStyle) (frame : Frame) (d : Declaration) :
    (frame.fill style d).name = d.name := by
  rw [fill]
  split
  · exact Declaration.name_addFields _ _
  · rfl

/-- A frame without members fills nothing. -/
theorem fillAll_nil_cons (style : NamingStyle) (name : Text) (scope : FieldScope)
    (outer : List Frame) (d : Declaration) :
    fillAll style (⟨name, scope, []⟩ :: outer) d = fillAll style outer d := by
  have hfill : Frame.fill style ⟨name, scope, []⟩ d = d := by
    rw [Frame.fill]
    split <;> rfl
  rw [fillAll, List.foldl_cons, hfill, fillAll]

theorem name_fillAll (style : NamingStyle) (frames : List Frame) (d : Declaration) :
    (fillAll style frames d).name = d.name := by
  induction frames generalizing d with
  | nil => rfl
  | cons frame frames ih => exact (ih _).trans (frame.name_fill style d)

theorem fillAll_of_closed {style : NamingStyle} {frames : List Frame} {d : Declaration}
    (h : d.name ∉ frames.map (·.name)) : fillAll style frames d = d := by
  induction frames generalizing d with
  | nil => rfl
  | cons frame frames ih =>
    rw [List.map_cons, List.mem_cons, not_or] at h
    have hfill : frame.fill style d = d := if_neg h.1
    rw [fillAll, List.foldl_cons, hfill]
    exact ih h.2

/-- To give the field of the next member now or later is the same. -/
theorem fillAll_addField (style : NamingStyle) (name : Text) (scope : FieldScope) (key : Text)
    (value : Json) (members : List (Text × Json)) (outer : List Frame) (d : Declaration) :
    fillAll style (⟨name, (scope.assign key).2, members⟩ :: outer)
        (if d.name = name then d.addField (memberField style scope key value) else d) =
      fillAll style (⟨name, scope, (key, value) :: members⟩ :: outer) d := by
  simp only [fillAll, List.foldl_cons, Frame.fill]
  by_cases h : d.name = name
  · rw [if_pos h, if_pos h, if_pos (show (d.addField _).name = name from h)]
    rfl
  · rw [if_neg h, if_neg h, if_neg h]

namespace Walk

/-- The stored declarations as they will be when all open objects are closed. -/
def completed (style : NamingStyle) (walk : Walk) : List Declaration :=
  walk.findings.shapes.declarations.map (fillAll style walk.frames)

theorem names_completed (style : NamingStyle) (walk : Walk) :
    (walk.completed style).map (·.name) = walk.findings.shapes.names := by
  rw [completed, List.map_map]
  exact List.map_congr_left fun d _ => name_fillAll style walk.frames d

theorem completed_of_done {style : NamingStyle} {walk : Walk} (h : walk.frames = []) :
    walk.completed style = walk.findings.shapes.declarations := by
  rw [completed, h]
  exact List.map_id _

theorem completed_close {style : NamingStyle} {walk : Walk} {name : Text} {scope : FieldScope}
    {outer : List Frame} (hf : walk.frames = ⟨name, scope, []⟩ :: outer)
    (trace : List InferenceEvent) :
    completed style ⟨⟨walk.findings.shapes, trace⟩, outer⟩ = walk.completed style := by
  rw [completed, completed, hf]
  exact List.map_congr_left fun d _ => (fillAll_nil_cons style name scope outer d).symm

theorem completed_keep {style : NamingStyle} {walk : Walk} {name : Text} {scope : FieldScope}
    {key : Text} {value : Json} {members : List (Text × Json)} {outer : List Frame}
    (hf : walk.frames = ⟨name, scope, (key, value) :: members⟩ :: outer)
    (trace : List InferenceEvent) :
    completed style ⟨⟨walk.findings.shapes.addField name (memberField style scope key value),
      trace⟩, ⟨name, (scope.assign key).2, members⟩ :: outer⟩ = walk.completed style := by
  rw [completed, completed, hf, Shapes.addField, List.map_map]
  exact List.map_congr_left fun d _ => fillAll_addField style name scope key value members outer d

/-- **To declare an object is to add its whole declaration at the end.** -/
theorem Sound.completed_descend {style : NamingStyle} {walk : Walk} (h : Sound walk) {name : Text}
    {scope : FieldScope} {key : Text} {value : Json} {members : List (Text × Json)}
    {outer : List Frame} {o : SampledObject}
    (hf : walk.frames = ⟨name, scope, (key, value) :: members⟩ :: outer)
    (hfree : o.name style ∉ walk.findings.shapes.names) (trace : List InferenceEvent) :
    completed style ⟨⟨(walk.findings.shapes.insertIfNew { name := o.name style }).addField name
        (memberField style scope key value), trace⟩,
      o.frame style 0 :: ⟨name, (scope.assign key).2, members⟩ :: outer⟩ =
      walk.completed style ++ [o.declaration style] := by
  have hopen : o.name style ∉ name :: outer.map (·.name) := by
    have ho := h.opened
    rw [openNames, hf] at ho
    exact fun hm => hfree (ho hm)
  have hstore : (walk.findings.shapes.insertIfNew { name := o.name style }).declarations =
      walk.findings.shapes.declarations ++ [{ name := o.name style }] :=
    Shapes.insertIfNew_of_free hfree
  simp only [completed, Shapes.addField, hstore, List.map_append, List.map_map, List.map_cons,
    List.map_nil]
  congr 1
  · -- What was stored before is not filled by the new frame, whose name is another.
    rw [hf]
    refine List.map_congr_left fun d hd => ?_
    have hne : d.name ≠ o.name style := fun he => hfree (he ▸ List.mem_map_of_mem hd)
    rw [← fillAll_addField, Function.comp_apply, fillAll, List.foldl_cons, Frame.fill, if_neg]
    · rfl
    · split <;> exact hne
  · -- The new declaration is filled by its own frame only.
    have hne : o.name style ≠ name := fun he => hopen (he ▸ List.mem_cons_self)
    rw [List.cons.injEq, if_neg hne, fillAll, List.foldl_cons, Frame.fill, if_pos (by rfl)]
    refine ⟨fillAll_of_closed ?_, rfl⟩
    rw [Declaration.name_addFields]
    exact hopen

/-- What is known of the declarations stays as it is. -/
theorem Sound.completed_isPrefix {style : NamingStyle} {walk walk' : Walk} (h : Sound walk)
    (hm : Move style walk walk') : walk.completed style <+: walk'.completed style := by
  cases hm with
  | close trace hf => exact (completed_close hf trace).symm ▸ List.prefix_refl _
  | keep trace hf _ => exact (completed_keep hf trace).symm ▸ List.prefix_refl _
  | descend trace hf _ hfree =>
    rw [h.completed_descend hf hfree trace]
    exact List.prefix_append _ _

theorem Sound.completed_isPrefix_run {style : NamingStyle} {walk : Walk} (h : Sound walk)
    (n : Nat) : walk.completed style <+: (run style n walk).completed style := by
  have hkept : (run style n walk).Sound ∧
      walk.completed style <+: (run style n walk).completed style := by
    refine run_induction (P := fun walk' => walk'.Sound ∧
      walk.completed style <+: walk'.completed style) ?_ n ⟨h, List.prefix_refl _⟩
    intro walk₁ walk₂ h₁ hm
    exact ⟨h₁.1.move hm, h₁.2.trans (h₁.1.completed_isPrefix hm)⟩
  exact hkept.2

end Walk

end SampleTypes
