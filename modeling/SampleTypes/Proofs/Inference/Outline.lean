import SampleTypes.Proofs.Emission.Renaming
import SampleTypes.Proofs.Inference.Moves

/-!
# What inference sees of a sample

Two samples of one outline are walked in step. `Json.SameOutline` leaves open what the strings and
truth values are, which numbers stand where, and all that an array holds after its first element.
With `strict` a whole number takes the place of a whole number only; without it any number may, and
then the types that are found differ in that one bit (`FieldType.Alike`) and nothing else does.

**Whatever was found before, two samples of one outline add the same** (`inferRoot_alike`). The two
runs are compared step by step (`Walk.Alike.step`). They may well have different budgets, as what an
array holds counts towards the budget although it is never looked at; so both are taken with the
greater one, as every budget that is enough gives the same.
-/

set_option autoImplicit false

namespace SampleTypes

/-! ## Outlines -/

/-- A number, and whether it is one without a fractional part. -/
inductive Json.IsNumber : Json → Prop → Prop
  | int (n : Int) : IsNumber (.int n) True
  | float (x : Float) : IsNumber (.float x) (IsWhole x)

mutual

/-- Two values that differ at most in strings, in truth values, in numbers, and in what arrays hold
after their first elements. If `strict`, whole numbers differ from whole numbers only. -/
inductive Json.SameOutline (strict : Bool) : Json → Json → Prop
  | null : SameOutline strict .null .null
  | bool (b b' : Bool) : SameOutline strict (.bool b) (.bool b')
  | str (s s' : Text) : SameOutline strict (.str s) (.str s')
  | number {value value' : Json} {whole whole' : Prop} (h : value.IsNumber whole)
      (h' : value'.IsNumber whole') (same : strict = true → (whole ↔ whole')) :
      SameOutline strict value value'
  | empty : SameOutline strict (.arr []) (.arr [])
  | first {value value' : Json} (rest rest' : List Json) (h : SameOutline strict value value') :
      SameOutline strict (.arr (value :: rest)) (.arr (value' :: rest'))
  | object {members members' : List (Text × Json)} (h : SameMembers strict members members') :
      SameOutline strict (.obj members) (.obj members')

/-- Members with the same keys in the same order, and with values of one outline. -/
inductive Json.SameMembers (strict : Bool) : List (Text × Json) → List (Text × Json) → Prop
  | nil : SameMembers strict [] []
  | cons {value value' : Json} {members members' : List (Text × Json)} (key : Text)
      (h : SameOutline strict value value') (rest : SameMembers strict members members') :
      SameMembers strict ((key, value) :: members) ((key, value') :: members')

end

/-- Two types that are the same but for which numbers are integral; if `strict`, in that as well. -/
inductive FieldType.Alike (strict : Bool) : FieldType → FieldType → Prop
  | same (type : FieldType) : Alike strict type type
  | number {integral integral' : Bool} (h : strict = true → integral = integral') :
      Alike strict (.number integral) (.number integral')
  | list {type type' : FieldType} (h : Alike strict type type') :
      Alike strict (.list type) (.list type')

/-- Two sampled objects of one name with members of one outline. -/
structure SampledObject.Alike (strict : Bool) (o o' : SampledObject) : Prop where
  members : Json.SameMembers strict o.members o'.members
  hint : o.hint = o'.hint
  fromKey : o.fromKey = o'.fromKey

variable {strict : Bool} {style : NamingStyle}

theorem Json.IsNumber.sampledType_eq {value : Json} {whole : Prop} (h : value.IsNumber whole)
    (style : NamingStyle) (fromKey : Bool) (place : Place) :
    ∃ integral, sampledType style fromKey value place = .number integral ∧
      (integral = true ↔ whole) := by
  cases h with
  | int n => exact ⟨true, rfl, by simp⟩
  | float x => exact ⟨(integerOf? x).isSome, rfl, (isWhole_iff x).symm⟩

theorem Json.IsNumber.of?_eq_none {value : Json} {whole : Prop} (h : value.IsNumber whole)
    (place : Place) (fromKey : Bool) : SampledObject.of? value place fromKey = none := by
  cases h with
  | int n => rfl
  | float x => rfl

/-- Values of one outline give one type, up to what `strict` leaves open. -/
theorem Json.SameOutline.alike_sampledType (fromKey : Bool) :
    ∀ {value value' : Json} (place : Place), value.SameOutline strict value' →
      (sampledType style fromKey value place).Alike strict (sampledType style fromKey value' place)
  | _, _, _, .null => .same _
  | _, _, _, .bool _ _ => .same _
  | _, _, _, .str _ _ => .same _
  | _, _, _, .empty => .same _
  | _, _, place, .first _ _ h => .list (h.alike_sampledType fromKey place.item)
  | _, _, _, .object _ => .same _
  | _, _, place, .number h h' same => by
    obtain ⟨integral, htype, hwhole⟩ := h.sampledType_eq style fromKey place
    obtain ⟨integral', htype', hwhole'⟩ := h'.sampledType_eq style fromKey place
    rw [htype, htype']
    refine .number fun hstrict => ?_
    rw [Bool.eq_iff_iff, hwhole, hwhole']
    exact same hstrict

/-- Values of one outline are judged by alike objects, or by none. -/
theorem Json.SameOutline.rel_of? (fromKey : Bool) :
    ∀ {value value' : Json} (place : Place), value.SameOutline strict value' →
      Option.Rel (SampledObject.Alike strict) (SampledObject.of? value place fromKey)
        (SampledObject.of? value' place fromKey)
  | _, _, _, .null => .none
  | _, _, _, .bool _ _ => .none
  | _, _, _, .str _ _ => .none
  | _, _, _, .empty => .none
  | _, _, place, .first _ _ h => h.rel_of? fromKey place.item
  | _, _, _, .object h => .some ⟨h, rfl, rfl⟩
  | _, _, place, .number h h' _ => by
    rw [h.of?_eq_none, h'.of?_eq_none]
    exact .none

theorem FieldType.Alike.reference?_eq {type type' : FieldType} (h : type.Alike strict type') :
    type.reference? = type'.reference? := by
  induction h with
  | same type => rfl
  | number _ => rfl
  | list _ ih => exact ih

theorem FieldType.Alike.eq {type type' : FieldType} (h : type.Alike true type') : type = type' := by
  induction h with
  | same type => rfl
  | number h => rw [h rfl]
  | list _ ih => rw [ih]

/-! ## Declarations and findings -/

/-- Two fields of alike types. -/
structure Field.Alike (strict : Bool) (field field' : Field) : Prop where
  name : field.name = field'.name
  key : field.key = field'.key
  type : field.type.Alike strict field'.type

/-- Two declarations with alike fields. -/
structure Declaration.Alike (strict : Bool) (d d' : Declaration) : Prop where
  name : d.name = d'.name
  fields : List.Forall₂ (Field.Alike strict) d.fields d'.fields
  dependencies : d.dependencies = d'.dependencies

/-- Findings with alike declarations and the same trace. -/
structure Findings.Alike (strict : Bool) (findings findings' : Findings) : Prop where
  declarations : List.Forall₂ (Declaration.Alike strict) findings.shapes.declarations
    findings'.shapes.declarations
  trace : findings.trace = findings'.trace

theorem Field.Alike.refl (field : Field) : field.Alike strict field := ⟨rfl, rfl, .same _⟩

theorem Declaration.Alike.refl (d : Declaration) : d.Alike strict d :=
  ⟨rfl, List.forall₂_same.mpr fun field _ => Field.Alike.refl field, rfl⟩

theorem Findings.Alike.refl (findings : Findings) : findings.Alike strict findings :=
  ⟨List.forall₂_same.mpr fun d _ => Declaration.Alike.refl d, rfl⟩

theorem Field.Alike.eq {field field' : Field} (h : field.Alike true field') : field = field' := by
  obtain ⟨name, key, type⟩ := field
  obtain ⟨name', key', type'⟩ := field'
  obtain ⟨rfl, rfl, htype⟩ := h
  have htype : type = type' := htype.eq
  rw [htype]

theorem Declaration.Alike.eq {d d' : Declaration} (h : d.Alike true d') : d = d' := by
  obtain ⟨name, fields, dependencies⟩ := d
  obtain ⟨name', fields', dependencies'⟩ := d'
  obtain ⟨rfl, hfields, rfl⟩ := h
  have hfields : fields = fields' := List.forall₂_eq_eq_eq ▸ hfields.imp fun _ _ hf => hf.eq
  rw [hfields]

theorem Findings.Alike.eq {findings findings' : Findings} (h : findings.Alike true findings') :
    findings = findings' := by
  obtain ⟨⟨ds⟩, trace⟩ := findings
  obtain ⟨⟨ds'⟩, trace'⟩ := findings'
  obtain ⟨hds, rfl⟩ := h
  have hds : ds = ds' := List.forall₂_eq_eq_eq ▸ hds.imp fun _ _ hd => hd.eq
  rw [hds]

/-- Alike declarations have the same names, so names take their own place. -/
theorem isRenaming_alike : IsRenaming Eq (Declaration.Alike strict) := by
  refine ⟨⟨fun _ _ _ h h' => h.trans h'.symm, fun _ _ _ h h' => h.symm.trans h'⟩,
    fun h => h.name, fun h => ?_⟩
  rw [List.forall₂_eq_eq_eq]
  exact h.dependencies

theorem Declaration.Alike.addField {d d' : Declaration} {field field' : Field}
    (h : d.Alike strict d') (hfield : field.Alike strict field') :
    (d.addField field).Alike strict (d'.addField field') := by
  refine ⟨h.name, List.rel_append h.fields (.cons hfield .nil), ?_⟩
  show noteDependency d.dependencies _ = noteDependency d'.dependencies _
  rw [h.dependencies, hfield.type.reference?_eq]

namespace Findings.Alike

variable {findings findings' : Findings}

theorem note (h : findings.Alike strict findings') (event : InferenceEvent) :
    (findings.note event).Alike strict (findings'.note event) :=
  ⟨h.declarations, congrArg (event :: ·) h.trace⟩

theorem contains_eq (h : findings.Alike strict findings') (name : Text) :
    findings.shapes.contains name = findings'.shapes.contains name :=
  isRenaming_alike.any_name rfl h.declarations

theorem declare (h : findings.Alike strict findings') (name : Text) :
    (findings.declare name).Alike strict (findings'.declare name) := by
  refine ⟨?_, h.trace⟩
  simp only [Findings.declare, Shapes.insertIfNew, h.contains_eq name]
  split
  · exact h.declarations
  · exact List.rel_append h.declarations (.cons (Declaration.Alike.refl _) .nil)

theorem addField (h : findings.Alike strict findings') (name : Text) {field field' : Field}
    (hfield : field.Alike strict field') :
    (findings.addField name field).Alike strict (findings'.addField name field') := by
  refine ⟨?_, h.trace⟩
  show List.Forall₂ _ (List.map _ _) (List.map _ _)
  rw [List.forall₂_map_left_iff, List.forall₂_map_right_iff]
  refine h.declarations.imp fun d d' hd => ?_
  rw [← hd.name]
  split
  · exact hd.addField hfield
  · exact hd

theorem noteFilled (h : findings.Alike strict findings') (name : Text) :
    (findings.noteFilled name).Alike strict (findings'.noteFilled name) := by
  have hcount : (findings.shapes.find? name).elim 0 (·.fields.length) =
      (findings'.shapes.find? name).elim 0 (·.fields.length) := by
    have hfound : Option.Rel (Declaration.Alike strict) (findings.shapes.find? name)
        (findings'.shapes.find? name) := isRenaming_alike.find?_name rfl h.declarations
    match findings.shapes.find? name, findings'.shapes.find? name, hfound with
    | none, none, _ => rfl
    | some d, some d', .some hd => exact hd.fields.length_eq
  rw [Findings.noteFilled, Findings.noteFilled, hcount]
  exact h.note _

end Findings.Alike

/-! ## Two walks in step -/

/-- Two open objects with as many fields, and with members of one outline left. -/
structure Frame.Alike (strict : Bool) (frame frame' : Frame) : Prop where
  name : frame.name = frame'.name
  scope : frame.scope = frame'.scope
  members : Json.SameMembers strict frame.members frame'.members

/-- Two walks that are at the same place of two samples of one outline. -/
structure Walk.Alike (strict : Bool) (walk walk' : Walk) : Prop where
  findings : walk.findings.Alike strict walk'.findings
  frames : List.Forall₂ (Frame.Alike strict) walk.frames walk'.frames

namespace Walk

namespace Alike

variable {walk walk' : Walk} (style)

theorem afterMeet (h : walk.Alike strict walk') {o o' : Option SampledObject}
    (ho : Option.Rel (SampledObject.Alike strict) o o') :
    (walk.afterMeet style o).Alike strict (walk'.afterMeet style o') := by
  cases ho with
  | none => exact h
  | @some o o' ho =>
    have hname : o.name style = o'.name style := by
      rw [SampledObject.name, SampledObject.name, ho.hint, ho.fromKey]
    rw [Walk.afterMeet, Walk.afterMeet, ← hname, ← h.findings.contains_eq]
    split
    · exact ⟨h.findings.note _, h.frames⟩
    · have hframe : (o.frame style 0).Alike strict (o'.frame style 0) := ⟨hname, rfl, ho.members⟩
      exact ⟨h.findings.declare _, .cons hframe h.frames⟩

/-- **The two walks stay at the same place.** -/
theorem step (h : walk.Alike strict walk') : (step style walk).Alike strict (step style walk') := by
  have hframes := h.frames
  match hf : walk.frames, hf' : walk'.frames with
  | [], [] =>
    rw [Walk.step, Walk.step, hf, hf']
    exact h
  | [], _ :: _ | _ :: _, [] =>
    rw [hf, hf'] at hframes
    exact absurd hframes (by simp)
  | ⟨name, scope, members⟩ :: outer, ⟨name', scope', members'⟩ :: outer' =>
    rw [hf, hf', List.forall₂_cons] at hframes
    obtain ⟨⟨hname, hscope, hmembers⟩, houter⟩ := hframes
    dsimp only at hname hscope hmembers
    subst hname hscope
    cases hmembers with
    | nil =>
      rw [step_close hf, step_close hf']
      exact ⟨h.findings.noteFilled name, houter⟩
    | @cons value value' members members' key hvalue hrest =>
      -- Both frames go on to the next member, and the values of this one are looked at.
      have hframe : Frame.Alike strict ⟨name, (scope.assign key).2, members⟩
          ⟨name, (scope.assign key).2, members'⟩ := ⟨rfl, rfl, hrest⟩
      have hnext : Walk.Alike strict
          { walk with frames := ⟨name, (scope.assign key).2, members⟩ :: outer }
          { walk' with frames := ⟨name, (scope.assign key).2, members'⟩ :: outer' } :=
        ⟨h.findings, .cons hframe houter⟩
      have hmet := hnext.afterMeet style (hvalue.rel_of? true (.ofKey key))
      have hfield : (memberField style scope key value).Alike strict
          (memberField style scope key value') := ⟨rfl, rfl, hvalue.alike_sampledType true _⟩
      rw [step_member hf, step_member hf']
      exact ⟨hmet.findings.addField name hfield, hmet.frames⟩

theorem run (h : walk.Alike strict walk') (n : Nat) :
    (run style n walk).Alike strict (run style n walk') := by
  induction n generalizing walk walk' with
  | zero => exact h
  | succ n ih =>
    have hempty : walk.frames.isEmpty = walk'.frames.isEmpty := by
      rw [Bool.eq_iff_iff, List.isEmpty_iff_length_eq_zero, List.isEmpty_iff_length_eq_zero,
        h.frames.length_eq]
    rw [Walk.run, Walk.run, ← hempty]
    split
    · exact h
    · exact ih (h.step style)

/-- What both have found at their ends, which the one may reach with a greater budget than the
other. -/
theorem finish (h : walk.Alike strict walk') :
    (walk.finish style).Alike strict (walk'.finish style) := by
  have hrun := h.run style (max walk.weight walk'.weight)
  rw [finish_eq_of_leads (leads_run style _ walk) (frames_run style _ (Nat.le_max_left _ _)),
    finish_eq_of_leads (leads_run style _ walk') (frames_run style _ (Nat.le_max_right _ _))]
  exact hrun.findings

end Alike

end Walk

/-! ## The root -/

theorem inferAt_alike (style : NamingStyle) {value value' : Json} (h : value.SameOutline strict value') (place : Place)
    (fromKey : Bool) {findings findings' : Findings} (hfound : findings.Alike strict findings') :
    (inferAt style value place fromKey findings).1.Alike strict
        (inferAt style value' place fromKey findings').1 ∧
      (inferAt style value place fromKey findings).2.Alike strict
        (inferAt style value' place fromKey findings').2 := by
  have hstart : Walk.Alike strict { findings } { findings := findings' } := ⟨hfound, .nil⟩
  simp only [inferAt, Walk.meet_eq]
  exact ⟨h.alike_sampledType fromKey place, (hstart.afterMeet style (h.rel_of? fromKey place)).finish style⟩

/-- **Whatever was found before, two samples of one outline add the same**: the root has the same
name, and the declarations are alike. -/
theorem inferRoot_alike (style : NamingStyle) {value value' : Json}
    (h : value.SameOutline strict value') (rootName : Text) (findings : Findings) :
    (inferRoot style value rootName findings).1 = (inferRoot style value' rootName findings).1 ∧
      (inferRoot style value rootName findings).2.Alike strict
        (inferRoot style value' rootName findings).2 := by
  obtain ⟨htype, hfound⟩ := inferAt_alike style h ⟨rootName, none⟩ false
    (Findings.Alike.refl findings)
  simp only [inferRoot, infer, Option.isSome_none]
  generalize inferAt style value ⟨rootName, none⟩ false findings = found at htype hfound
  generalize inferAt style value' ⟨rootName, none⟩ false findings = found' at htype hfound
  obtain ⟨type, findings⟩ := found
  obtain ⟨type', findings'⟩ := found'
  dsimp only at htype hfound ⊢
  rw [← htype.reference?_eq]
  cases type.reference? with
  | some name => exact ⟨rfl, hfound⟩
  | none =>
    -- The root is wrapped in both, by a field of the type that was found.
    have hwrapper : Field.Alike strict
        ⟨(style.fieldScope.assign ("value" : Text)).1, ("value" : Text), type⟩
        ⟨(style.fieldScope.assign ("value" : Text)).1, ("value" : Text), type'⟩ :=
      ⟨rfl, rfl, htype⟩
    exact ⟨rfl, ((hfound.declare _).addField _ hwrapper).note _⟩

end SampleTypes
