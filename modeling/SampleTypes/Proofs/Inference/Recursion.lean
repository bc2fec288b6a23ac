import SampleTypes.Inference.Recursive
import SampleTypes.Proofs.Inference.Moves

/-!
# The walk is the recursion

The recursion looks at what a value holds before the field of the value is added; the walk adds the
field first, with the object still empty, and looks into it afterwards. On the way their findings differ
in all open objects, and **in the end they are the same**, whatever was found before.

Two facts about the recursion carry the proof. What is found in a value comes at the end of the store,
under names that were free, as whole declarations (`declarations_inferObject`); so what was stored before
is left as it was. And a field that is added to a declaration stored before may as well be added
afterwards (`inferObject_addField`), because nothing that is found depends on the fields of what is
stored. Both are proved by induction on what members hold (`Json.members_induction`), as is the last
one, that the steps of an open object lead to what the recursion finds for it (`Walk.fulfils`).
-/

set_option autoImplicit false

namespace SampleTypes

variable {style : NamingStyle} {findings : Findings} {name other : Text} {field : Field}

/-- Induction over members and over what they hold: over the members of the objects by which their
values are judged. -/
theorem Json.members_induction {P : List (Text × Json) → Prop} (nil : P [])
    (cons : ∀ key value members, P members →
      (∀ o, SampledObject.of? value (.ofKey key) true = some o → P o.members) →
        P ((key, value) :: members)) : ∀ members, P members
  | [] => nil
  | (key, value) :: members =>
    cons key value members (members_induction nil cons members) fun o _ =>
      members_induction nil cons o.members
termination_by members => Json.membersWeight members
decreasing_by
  · rw [Json.membersWeight]
    omega
  · have := Walk.membersWeight_lt_of_of? ‹_›
    rw [Json.membersWeight]
    omega

/-! ## The recursion by the objects that it meets -/

namespace Recursive

/-- What is found when the object by which a value is judged was looked at. -/
def inferObject (style : NamingStyle) (findings : Findings) : Option SampledObject → Findings
  | none => findings
  | some o =>
    if findings.shapes.contains (o.name style) then findings.note (.reused (o.name style))
    else
      (inferMembers style (o.name style) style.fieldScope o.members
        (findings.declare (o.name style))).noteFilled (o.name style)

theorem inferAt_eq (style : NamingStyle) (fromKey : Bool) (findings : Findings) :
    ∀ (value : Json) (place : Place), inferAt style value place fromKey findings =
      (sampledType style fromKey value place,
        inferObject style findings (SampledObject.of? value place fromKey))
  | .arr (first :: rest), place => by
    rw [inferAt, inferAt_eq style fromKey findings first place.item]
    rfl
  | .obj members, place => by
    rw [inferAt, SampledObject.of?, inferObject, SampledObject.name]
    split <;> rfl
  | .null, _ | .bool _, _ | .str _, _ | .int _, _ | .float _, _ | .arr [], _ => by
    simp [inferAt, sampledType, SampledObject.of?, inferObject]

theorem inferMembers_cons (style : NamingStyle) (name : Text) (scope : FieldScope) (key : Text)
    (value : Json) (members : List (Text × Json)) (findings : Findings) :
    inferMembers style name scope ((key, value) :: members) findings =
      inferMembers style name (scope.assign key).2 members
        ((inferObject style findings (SampledObject.of? value (.ofKey key) true)).addField name
          (memberField style scope key value)) := by
  rw [inferMembers, inferAt_eq]
  rfl

/-! ## What is found comes last -/

/-- A declaration under a name that is free, which is the whole declaration of an object. -/
def IsNew (style : NamingStyle) (shapes : Shapes) (d : Declaration) : Prop :=
  d.name ∉ shapes.names ∧ ∃ o : SampledObject, d = o.declaration style

/-- The members of an object give fields to its declaration, and what they hold comes at the end. -/
def Fills (style : NamingStyle) (members : List (Text × Json)) : Prop :=
  ∀ (name : Text) (scope : FieldScope) (findings : Findings), name ∈ findings.shapes.names →
    ∃ new, (inferMembers style name scope members findings).shapes.declarations =
      findings.shapes.declarations.map (Frame.fill style ⟨name, scope, members⟩) ++ new ∧
        ∀ d ∈ new, IsNew style findings.shapes d

/-- A frame fills no declaration of another name. -/
theorem map_fill_of_notMem {frame : Frame} {ds : List Declaration}
    (h : frame.name ∉ ds.map (·.name)) : ds.map (frame.fill style) = ds := by
  have hsame : ∀ d ∈ ds, frame.fill style d = d := fun d hd =>
    if_neg fun he : d.name = frame.name => h (he ▸ List.mem_map_of_mem hd)
  rw [List.map_congr_left hsame, List.map_id']

/-- To give the next field and then the others is to give all of them. -/
theorem map_fill_addField (shapes : Shapes) (scope : FieldScope) (key : Text) (value : Json)
    (members : List (Text × Json)) :
    (shapes.addField name (memberField style scope key value)).declarations.map
        (Frame.fill style ⟨name, (scope.assign key).2, members⟩) =
      shapes.declarations.map (Frame.fill style ⟨name, scope, (key, value) :: members⟩) := by
  rw [Shapes.addField, List.map_map]
  exact List.map_congr_left fun d _ => fillAll_addField style name scope key value members [] d

/-- What is found after an object was looked at, if this is so of its members. -/
theorem Fills.declarations_inferObject {found : Option SampledObject}
    (h : ∀ o, found = some o → Fills style o.members) (findings : Findings) :
    ∃ new, (inferObject style findings found).shapes.declarations =
      findings.shapes.declarations ++ new ∧ ∀ d ∈ new, IsNew style findings.shapes d := by
  cases found with
  | none => exact ⟨[], (List.append_nil _).symm, by simp⟩
  | some o =>
    rw [inferObject]
    by_cases hc : findings.shapes.contains (o.name style) = true
    · rw [if_pos hc]
      exact ⟨[], (List.append_nil _).symm, by simp⟩
    · have hfree : o.name style ∉ findings.shapes.names := mt Shapes.contains_iff.mpr hc
      have hnames : (findings.declare (o.name style)).shapes.names =
          findings.shapes.names ++ [o.name style] := Walk.names_declare hfree
      obtain ⟨new, hnew, hisNew⟩ := h o rfl (o.name style) style.fieldScope
        (findings.declare (o.name style)) (by simp [hnames])
      have hdeclared : (findings.declare (o.name style)).shapes.declarations =
          findings.shapes.declarations ++ [{ name := o.name style }] :=
        Shapes.insertIfNew_of_free hfree
      -- What was stored before has other names, so the members fill the new declaration alone.
      have hold : findings.shapes.declarations.map
          (Frame.fill style ⟨o.name style, style.fieldScope, o.members⟩) =
            findings.shapes.declarations := map_fill_of_notMem hfree
      rw [if_neg hc]
      refine ⟨o.declaration style :: new, ?_, List.forall_mem_cons.mpr ⟨⟨?_, o, rfl⟩, ?_⟩⟩
      · show (inferMembers style _ _ _ _).shapes.declarations = _
        rw [hnew, hdeclared, List.map_append, hold]
        simp [Frame.fill, SampledObject.declaration]
      · rwa [o.name_declaration]
      · intro d hd
        obtain ⟨hname, ho⟩ := hisNew d hd
        exact ⟨fun hm => hname (by simp [hnames, hm]), ho⟩

theorem fills (style : NamingStyle) (members : List (Text × Json)) : Fills style members := by
  -- The induction gives the statement for the other members, and for those of the object in the value.
  induction members using Json.members_induction with
  | nil =>
    intro name scope findings _
    refine ⟨[], ?_, by simp⟩
    have hfill : Frame.fill style ⟨name, scope, []⟩ = id :=
      funext fun d => fillAll_nil_cons style name scope [] d
    rw [inferMembers, hfill, List.map_id, List.append_nil]
  | cons key value members ih ihvalue =>
    intro name scope findings hname
    obtain ⟨found, hfound, hfoundNew⟩ := Fills.declarations_inferObject ihvalue findings
    rw [inferMembers_cons]
    generalize inferObject style findings (SampledObject.of? value (.ofKey key) true) = between
      at hfound
    have hnames : between.shapes.names = findings.shapes.names ++ found.map (·.name) := by
      rw [Shapes.names, hfound, List.map_append, Shapes.names]
    have hkept : found.map (Frame.fill style ⟨name, scope, (key, value) :: members⟩) = found := by
      refine map_fill_of_notMem fun hm => ?_
      obtain ⟨d, hd, hdname⟩ := List.mem_map.mp hm
      exact (hfoundNew d hd).1 (hdname ▸ hname)
    obtain ⟨rest, hrest, hrestNew⟩ := ih name (scope.assign key).2
      (between.addField name (memberField style scope key value))
      (by rw [Findings.addField, Shapes.names_addField, hnames]; exact List.mem_append_left _ hname)
    refine ⟨found ++ rest, ?_, List.forall_mem_append.mpr ⟨hfoundNew, fun d hd => ?_⟩⟩
    · rw [hrest, Findings.addField, map_fill_addField, hfound, List.map_append,
        hkept, List.append_assoc]
    · obtain ⟨hfree, ho⟩ := hrestNew d hd
      rw [Findings.addField, Shapes.names_addField, hnames] at hfree
      exact ⟨fun hm => hfree (List.mem_append_left _ hm), ho⟩

/-- **What is found in a value comes at the end of the store**, and all that was stored stays. -/
theorem declarations_inferObject (style : NamingStyle) (findings : Findings)
    (found : Option SampledObject) :
    ∃ new, (inferObject style findings found).shapes.declarations =
      findings.shapes.declarations ++ new ∧ ∀ d ∈ new, IsNew style findings.shapes d :=
  Fills.declarations_inferObject (fun o _ => fills style o.members) findings

theorem mem_names_inferObject (found : Option SampledObject) (h : name ∈ findings.shapes.names) :
    name ∈ (inferObject style findings found).shapes.names := by
  obtain ⟨new, hnew, -⟩ := declarations_inferObject style findings found
  rw [Shapes.names, hnew, List.map_append]
  exact List.mem_append_left _ h

end Recursive

/-! ## Fields of other declarations -/

namespace Findings

theorem contains_addField (findings : Findings) (other : Text) (field : Field) (name : Text) :
    (findings.addField other field).shapes.contains name = findings.shapes.contains name := by
  rw [Bool.eq_iff_iff, Shapes.contains_iff, Shapes.contains_iff, addField, Shapes.names_addField]

theorem addField_comm (findings : Findings) (field field' : Field) (h : other ≠ name) :
    (findings.addField other field).addField name field' =
      (findings.addField name field').addField other field := by
  simp only [addField, Shapes.addField, List.map_map]
  congr 3
  funext d
  simp only [Function.comp]
  by_cases hd : d.name = other
  · have hd' : d.name ≠ name := hd.trans_ne h
    rw [if_pos hd, if_neg hd', if_pos hd, if_neg (show (d.addField field).name ≠ name from hd')]
  · rw [if_neg hd]
    split
    · exact (if_neg (show (d.addField field').name ≠ other from hd)).symm
    · rfl

theorem declare_addField (field : Field) (h : other ≠ name)
    (hfree : name ∉ findings.shapes.names) :
    (findings.addField other field).declare name =
      (findings.declare name).addField other field := by
  have hfree' : name ∉ (findings.shapes.addField other field).names := by
    rwa [Shapes.names_addField]
  simp only [declare, addField, Shapes.insertIfNew, Shapes.contains_iff, if_neg hfree, if_neg hfree']
  simp [Shapes.addField, h.symm]

theorem noteFilled_addField (findings : Findings) (field : Field) (h : other ≠ name) :
    (findings.addField other field).noteFilled name =
      (findings.noteFilled name).addField other field := by
  rw [noteFilled, noteFilled]
  simp only [addField, note, Shapes.find?_addField_of_ne _ _ h]

end Findings

namespace Recursive

/-- A field of another declaration that is stored may be added before or after. -/
def Commutes (style : NamingStyle) (members : List (Text × Json)) : Prop :=
  ∀ (name : Text) (scope : FieldScope) (findings : Findings) (other : Text) (field : Field),
    other ∈ findings.shapes.names → other ≠ name →
      inferMembers style name scope members (findings.addField other field) =
        (inferMembers style name scope members findings).addField other field

theorem Commutes.inferObject_addField {found : Option SampledObject}
    (h : ∀ o, found = some o → Commutes style o.members) (field : Field)
    (hother : other ∈ findings.shapes.names) :
    inferObject style (findings.addField other field) found =
      (inferObject style findings found).addField other field := by
  cases found with
  | none => rfl
  | some o =>
    rw [inferObject, inferObject, Findings.contains_addField]
    by_cases hc : findings.shapes.contains (o.name style) = true
    · rw [if_pos hc, if_pos hc]
      rfl
    · have hfree : o.name style ∉ findings.shapes.names := mt Shapes.contains_iff.mpr hc
      have hne : other ≠ o.name style := fun he => hfree (he ▸ hother)
      have hstored : other ∈ (findings.declare (o.name style)).shapes.names := by
        rw [Findings.declare, Walk.names_declare hfree]
        exact List.mem_append_left _ hother
      rw [if_neg hc, if_neg hc, Findings.declare_addField field hne hfree,
        h o rfl _ _ _ _ _ hstored hne, Findings.noteFilled_addField _ _ hne]

theorem commutes (style : NamingStyle) (members : List (Text × Json)) : Commutes style members := by
  induction members using Json.members_induction with
  | nil =>
    intro name scope findings other field _ _
    rw [inferMembers, inferMembers]
  | cons key value members ih ihvalue =>
    intro name scope findings other field hother hne
    rw [inferMembers_cons, inferMembers_cons, Commutes.inferObject_addField ihvalue field hother,
      Findings.addField_comm _ _ _ hne, ih _ _ _ _ _ _ hne]
    rw [Findings.addField, Shapes.names_addField]
    exact mem_names_inferObject _ hother

/-- **A field that is added before an object is looked at may as well be added afterwards**, if it is
one of a declaration that was stored before. -/
theorem inferObject_addField (found : Option SampledObject) (field : Field)
    (hother : other ∈ findings.shapes.names) :
    inferObject style (findings.addField other field) found =
      (inferObject style findings found).addField other field :=
  Commutes.inferObject_addField (fun o _ => commutes style o.members) field hother

end Recursive

/-! ## The walk -/

namespace Walk

/-- A step adds the field of a member and looks at its value, in whichever order. -/
theorem step_eq_afterMeet {scope : FieldScope} {key : Text} {value : Json}
    {members : List (Text × Json)} {outer : List Frame} (hname : name ∈ findings.shapes.names) :
    step style ⟨findings, ⟨name, scope, (key, value) :: members⟩ :: outer⟩ =
      afterMeet style ⟨findings.addField name (memberField style scope key value),
        ⟨name, (scope.assign key).2, members⟩ :: outer⟩
          (SampledObject.of? value (.ofKey key) true) := by
  rw [step_member rfl]
  cases SampledObject.of? value (.ofKey key) true with
  | none => rfl
  | some o =>
    simp only [afterMeet, Findings.contains_addField]
    split
    · rfl
    · rename_i hc
      have hfree : o.name style ∉ findings.shapes.names := mt Shapes.contains_iff.mpr hc
      have hne : name ≠ o.name style := fun he => hfree (he ▸ hname)
      rw [Findings.declare_addField _ hne hfree]

/-- The steps of an open object lead to what the recursion finds for it. -/
def Fulfils (style : NamingStyle) (members : List (Text × Json)) : Prop :=
  ∀ (name : Text) (scope : FieldScope) (findings : Findings) (outer : List Frame),
    name ∈ findings.shapes.names →
      Leads (step style) ⟨findings, ⟨name, scope, members⟩ :: outer⟩
        ⟨(Recursive.inferMembers style name scope members findings).noteFilled name, outer⟩

/-- After a value was met, steps lead to what the recursion finds for it. -/
theorem Fulfils.leads_inferObject {found : Option SampledObject}
    (h : ∀ o, found = some o → Fulfils style o.members) (findings : Findings)
    (outer : List Frame) :
    Leads (step style) (afterMeet style ⟨findings, outer⟩ found)
      ⟨Recursive.inferObject style findings found, outer⟩ := by
  cases found with
  | none => exact .refl _
  | some o =>
    rw [afterMeet, Recursive.inferObject]
    split
    · exact .refl _
    · rename_i hc
      have hfree : o.name style ∉ findings.shapes.names := mt Shapes.contains_iff.mpr hc
      exact h o rfl _ _ _ _ (by rw [Findings.declare, names_declare hfree]; simp)

theorem fulfils (style : NamingStyle) (members : List (Text × Json)) : Fulfils style members := by
  induction members using Json.members_induction with
  | nil =>
    intro name scope findings outer _
    exact .of_step (step_close rfl) (.refl _)
  | cons key value members ih ihvalue =>
    intro name scope findings outer hname
    have hvalue := Fulfils.leads_inferObject ihvalue
      (findings.addField name (memberField style scope key value))
      (⟨name, (scope.assign key).2, members⟩ :: outer)
    rw [Recursive.inferObject_addField _ _ hname] at hvalue
    refine .of_step (step_eq_afterMeet hname) (hvalue.trans ?_)
    rw [Recursive.inferMembers_cons]
    refine ih _ _ _ _ ?_
    rw [Findings.addField, Shapes.names_addField]
    exact Recursive.mem_names_inferObject _ hname

end Walk

/-- What inference gives, by the object that a value is judged by. -/
theorem infer_eq (style : NamingStyle) (value : Json) (hint : Text) (key : Option Text)
    (findings : Findings) :
    infer style value hint key findings =
      (sampledType style key.isSome value ⟨hint, key⟩, Recursive.inferObject style findings
        (SampledObject.of? value ⟨hint, key⟩ key.isSome)) := by
  have hleads := Walk.Fulfils.leads_inferObject
    (fun o (_ : SampledObject.of? value ⟨hint, key⟩ key.isSome = some o) =>
      Walk.fulfils style o.members) findings []
  rw [infer, inferAt, Walk.meet_eq]
  exact congrArg (Prod.mk _) (Walk.finish_eq_of_leads hleads rfl)

/-- **The walk with a stack infers what the recursion infers**: the same type, and findings with the same
declarations in the same order and with the same trace, whatever was found before. -/
theorem infer_eq_recursive (style : NamingStyle) (value : Json) (hint : Text) (key : Option Text)
    (findings : Findings) :
    infer style value hint key findings =
      Recursive.inferAt style value ⟨hint, key⟩ key.isSome findings := by
  rw [infer_eq, Recursive.inferAt_eq]

end SampleTypes
