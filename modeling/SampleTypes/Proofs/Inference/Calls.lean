import SampleTypes.Proofs.Inference.Recursion
import SampleTypes.Proofs.Naming.FieldScope
import SampleTypes.Target.Basic

/-!
# Calls that share their findings

Several values may be inferred one after another with the same findings. What one call declared is what
the next ones find, and they leave it as it is, with one exception: a root that is no object is wrapped
in a declaration of the root's name without a look at whether that name is taken. If it is, then the
declaration that has it is given the field of the wrapper as well. So **a declaration is final iff its
name is never that of such a wrapper** (`InferenceCall.isFrozen_iff`), and as long as it is final its
fields have different names.

What one call does to the declaration of one name is said three times, for a name that is stored and not
wrapped (`find?_perform_of_keeps`), for one that is stored and wrapped (`find?_perform_of_wraps`), and
for one that is not stored (`hasDistinctNames_perform`).
-/

set_option autoImplicit false

namespace SampleTypes

variable {style : NamingStyle} {findings start : Findings} {name : Text}

/-! ## The names of the fields -/

/-- No two fields have the same name. -/
def Declaration.HasDistinctNames (d : Declaration) : Prop := (d.fields.map (·.name)).Nodup

/-- The fields of members are named by one scope, one after another. -/
theorem names_memberFields (style : NamingStyle) (scope : FieldScope)
    (members : List (Text × Json)) :
    (memberFields style scope members).map (·.name) =
      scope.assignAll (members.map fun member => (member.1, ("_" : Text))) := by
  induction members generalizing scope with
  | nil => rfl
  | cons member members ih =>
    rw [memberFields, List.map_cons, List.map_cons, FieldScope.assignAll, ih]

theorem SampledObject.hasDistinctNames_declaration (style : NamingStyle) (o : SampledObject) :
    (o.declaration style).HasDistinctNames := by
  rw [Declaration.HasDistinctNames, o.fields_declaration, names_memberFields]
  exact (style.fieldScope.nodup_assignAll _).1

/-! ## What is found in a value -/

theorem find?_inferObject {d : Declaration} (found : Option SampledObject)
    (h : findings.shapes.find? name = some d) :
    (Recursive.inferObject style findings found).shapes.find? name = some d := by
  obtain ⟨new, hnew, -⟩ := Recursive.declarations_inferObject style findings found
  rw [Shapes.find?, hnew, List.find?_append]
  exact congrArg (Option.or · _) h

theorem hasDistinctNames_inferObject {d : Declaration} {found : Option SampledObject}
    (hfree : name ∉ findings.shapes.names)
    (h : (Recursive.inferObject style findings found).shapes.find? name = some d) :
    d.HasDistinctNames := by
  obtain ⟨new, hnew, hisNew⟩ := Recursive.declarations_inferObject style findings found
  obtain ⟨hmem, rfl⟩ := Shapes.mem_of_find? h
  rw [hnew, List.mem_append] at hmem
  rcases hmem with hold | hmem
  · exact absurd (List.mem_map_of_mem hold) hfree
  · obtain ⟨-, o, rfl⟩ := hisNew d hmem
    exact o.hasDistinctNames_declaration style

/-! ## Calls -/

/-- A call that infers a value and adds to the findings so far. -/
inductive InferenceCall where
  /-- A value met under a hint, and under a key if there is one. -/
  | value (value : Json) (hint : Text) (key : Option Text)
  /-- The root of a sample. -/
  | root (value : Json) (rootName : Text)

namespace InferenceCall

/-- The findings after a call. -/
def perform (style : NamingStyle) (findings : Findings) : InferenceCall → Findings
  | value v hint key => (infer style v hint key findings).2
  | root v rootName => (inferRoot style v rootName findings).2

/-- The findings after calls. -/
def performAll (style : NamingStyle) (start : Findings) (calls : List InferenceCall) : Findings :=
  calls.foldl (perform style) start

/-- The name of the declaration in which a call wraps its root, and its field, if the root is such that
it is wrapped. -/
def wrapper? (style : NamingStyle) : InferenceCall → Option (Text × Field)
  | value .. => none
  | root v rootName =>
    let type := (infer style v rootName none {}).1
    if type.reference?.isNone then
      some (style.declarationName rootName false,
        ⟨(style.fieldScope.assign ("value" : Text)).1, ("value" : Text), type⟩)
    else none

/-- One of the calls wraps its root under the name at a time when the name is taken. -/
inductive Rewraps (style : NamingStyle) (name : Text) : Findings → List InferenceCall → Prop
  | now {findings : Findings} {call : InferenceCall} {field : Field} {calls : List InferenceCall}
      (wraps : call.wrapper? style = some (name, field)) (taken : name ∈ findings.shapes.names) :
      Rewraps style name findings (call :: calls)
  | later {findings : Findings} {call : InferenceCall} {calls : List InferenceCall}
      (rewraps : Rewraps style name (perform style findings call) calls) :
      Rewraps style name findings (call :: calls)

/-- Whenever a declaration of the name is stored after some of the calls, it is the same after all of
them. -/
def IsFrozen (style : NamingStyle) (name : Text) (start : Findings) (calls : List InferenceCall) :
    Prop :=
  ∀ earlier later, calls = earlier ++ later → ∀ d,
    (performAll style start earlier).shapes.find? name = some d →
      (performAll style start calls).shapes.find? name = some d

/-! ## One call -/

/-- The object by which the value of a call is judged. -/
def object? : InferenceCall → Option SampledObject
  | value v hint key => SampledObject.of? v ⟨hint, key⟩ key.isSome
  | root v rootName => SampledObject.of? v ⟨rootName, none⟩ false

variable {call : InferenceCall} {calls : List InferenceCall} {field : Field} {d : Declaration}

/-- A call adds the wrapper of its root, or else what is found in its value. -/
theorem perform_eq (style : NamingStyle) (findings : Findings) (call : InferenceCall) :
    perform style findings call =
      match call.wrapper? style with
      | some (name, field) => ((findings.declare name).addField name field).note (.wrapped name)
      | none => Recursive.inferObject style findings call.object? := by
  cases call with
  | value v hint key => rw [perform, infer_eq, wrapper?, object?]
  | root v rootName =>
    have href := reference?_sampledType style false v ⟨rootName, none⟩
    rw [perform, inferRoot, wrapper?, infer_eq, infer_eq, object?]
    dsimp only [Option.isSome_none]
    cases ho : SampledObject.of? v ⟨rootName, none⟩ false with
    | none =>
      rw [ho] at href
      simp only [href, Option.map_none, Option.isNone_none, if_true]
      rfl
    | some o =>
      rw [ho] at href
      simp only [href, Option.map_some, Option.isNone_some]
      rfl

/-- A declaration stays as it is, unless the call wraps its root under the name. -/
theorem find?_perform_of_keeps (h : ∀ field, call.wrapper? style ≠ some (name, field))
    (hd : findings.shapes.find? name = some d) :
    (perform style findings call).shapes.find? name = some d := by
  rw [perform_eq]
  cases hw : call.wrapper? style with
  | none => exact find?_inferObject _ hd
  | some wrapper =>
    obtain ⟨other, field⟩ := wrapper
    have hne : other ≠ name := fun he => h field (by rw [hw, he])
    show ((findings.shapes.insertIfNew { name := other }).addField other field).find? name = some d
    rw [Shapes.find?_addField_of_ne _ _ hne, Shapes.find?_insertIfNew_of_some _ hd]

/-- A root that is wrapped under a name that is taken gives its field to the declaration that has it. -/
theorem find?_perform_of_wraps (h : call.wrapper? style = some (name, field))
    (hd : findings.shapes.find? name = some d) :
    (perform style findings call).shapes.find? name = some (d.addField field) := by
  rw [perform_eq, h]
  exact Shapes.find?_addField_self field (Shapes.find?_insertIfNew_of_some _ hd)

theorem hasDistinctNames_perform (hfree : name ∉ findings.shapes.names)
    (hd : (perform style findings call).shapes.find? name = some d) : d.HasDistinctNames := by
  rw [perform_eq] at hd
  cases hw : call.wrapper? style with
  | none =>
    rw [hw] at hd
    exact hasDistinctNames_inferObject hfree hd
  | some wrapper =>
    obtain ⟨other, field⟩ := wrapper
    rw [hw] at hd
    have hd : ((findings.shapes.insertIfNew { name := other }).addField other field).find? name =
        some d := hd
    by_cases hne : other = name
    · subst hne
      rw [Shapes.find?_addField_self field (Shapes.find?_insertIfNew_self hfree)] at hd
      rw [← Option.some.inj hd]
      exact List.nodup_singleton _
    · rw [Shapes.find?_addField_of_ne _ _ hne, Shapes.find?_insertIfNew_of_ne _ hne,
        Shapes.find?_eq_none_iff.mpr hfree] at hd
      exact absurd hd (by simp)

/-! ## Runs of calls -/

theorem performAll_append (style : NamingStyle) (start : Findings)
    (earlier later : List InferenceCall) :
    performAll style start (earlier ++ later) =
      performAll style (performAll style start earlier) later := List.foldl_append ..

/-- What is rewrapped after some of the calls is rewrapped in all of them. -/
theorem Rewraps.append (earlier : List InferenceCall) {later : List InferenceCall}
    (h : Rewraps style name (performAll style start earlier) later) :
    Rewraps style name start (earlier ++ later) := by
  induction earlier generalizing start with
  | nil => exact h
  | cons call earlier ih => exact .later (ih h)

/-- What is stored stays as it is, as long as it is not rewrapped. -/
theorem find?_performAll (h : ¬ Rewraps style name start calls)
    (hd : start.shapes.find? name = some d) :
    (performAll style start calls).shapes.find? name = some d := by
  induction calls generalizing start with
  | nil => exact hd
  | cons call calls ih =>
    have hkeeps : ∀ field, call.wrapper? style ≠ some (name, field) := fun field hw =>
      h (.now hw (Shapes.mem_names_of_find? hd))
    exact ih (fun hr => h (.later hr)) (find?_perform_of_keeps hkeeps hd)

theorem IsFrozen.tail (h : IsFrozen style name start (call :: calls)) :
    IsFrozen style name (perform style start call) calls :=
  fun earlier later hsplit d hd =>
    h (call :: earlier) later (by rw [hsplit, List.cons_append]) d hd

/-- A declaration that is given one more field is another one. -/
theorem Rewraps.not_isFrozen (h : Rewraps style name start calls) :
    ¬ IsFrozen style name start calls := by
  induction h with
  | @now findings call field calls hwraps htaken =>
    intro hfrozen
    obtain ⟨d, hd⟩ := Shapes.exists_find?_of_mem_names htaken
    have hbefore := hfrozen [] (call :: calls) rfl d hd
    have hafter := hfrozen [call] calls rfl (d.addField field) (find?_perform_of_wraps hwraps hd)
    have hsame : d.addField field = d := Option.some.inj (hafter.symm.trans hbefore)
    simpa [Declaration.addField] using congrArg (·.fields.length) hsame
  | later _ ih => exact fun hfrozen => ih hfrozen.tail

theorem hasDistinctNames_performAll (h : ¬ Rewraps style name start calls)
    (hstart : ∀ d, start.shapes.find? name = some d → d.HasDistinctNames)
    (hd : (performAll style start calls).shapes.find? name = some d) : d.HasDistinctNames := by
  induction calls generalizing start with
  | nil => exact hstart d hd
  | cons call calls ih =>
    refine ih (fun hr => h (.later hr)) (fun e he => ?_) hd
    by_cases htaken : name ∈ start.shapes.names
    · obtain ⟨d', hd'⟩ := Shapes.exists_find?_of_mem_names htaken
      have hkept := find?_perform_of_keeps (fun _ hw => h (.now hw htaken)) hd'
      rw [hkept] at he
      exact Option.some.inj he ▸ hstart d' hd'
    · exact hasDistinctNames_perform htaken he

/-- **The declaration of a name is final iff no call wraps its root under the name when it is taken.**
And then its fields have different names, if they had at the start. -/
theorem isFrozen_iff (style : NamingStyle) (name : Text) (start : Findings)
    (calls : List InferenceCall) :
    (IsFrozen style name start calls ↔ ¬ Rewraps style name start calls) ∧
      (IsFrozen style name start calls →
        (∀ d, start.shapes.find? name = some d → d.HasDistinctNames) →
          ∀ d, (performAll style start calls).shapes.find? name = some d → d.HasDistinctNames) := by
  have hfrozen : IsFrozen style name start calls ↔ ¬ Rewraps style name start calls := by
    refine ⟨fun hf hr => hr.not_isFrozen hf, fun h earlier later hsplit d hd => ?_⟩
    subst hsplit
    rw [performAll_append]
    exact find?_performAll (fun hr => h (hr.append earlier)) hd
  exact ⟨hfrozen, fun hf hstart _ hd =>
    hasDistinctNames_performAll (hfrozen.mp hf) hstart hd⟩

/-- Declarations are named as interfaces. -/
def interfaceStyle : NamingStyle := { convention := Target.typescript.convention }

/-- The root of an object with the one member `value`. -/
def objectRoot : InferenceCall := .root (.obj [("value", .int 1)]) "Root"

theorem isFrozen_iff_other_root :
    IsFrozen interfaceStyle "IRoot" {} [objectRoot, .root (.int 3) "Other"] ∧
      ∀ d, (performAll interfaceStyle {} [objectRoot, .root (.int 3) "Other"]).shapes.find?
        "IRoot" = some d → d.HasDistinctNames := by
  have hkept : ¬ Rewraps interfaceStyle "IRoot" {} [objectRoot, .root (.int 3) "Other"] := by
    intro h
    cases h with
    | now hwraps _ =>
      have hobject : wrapper? interfaceStyle objectRoot = none := by decide
      exact absurd (hobject.symm.trans hwraps) (by simp)
    | later h =>
      cases h with
      | now hwraps _ =>
        have hother : (wrapper? interfaceStyle (.root (.int 3) "Other")).map (·.1) =
            some ("IOther" : Text) := by decide
        have hsame : ("IRoot" : Text) = "IOther" := by simpa [hwraps] using hother
        exact absurd hsame (by decide)
      | later h => cases h
  have hfrozen := isFrozen_iff interfaceStyle "IRoot" {} [objectRoot, .root (.int 3) "Other"]
  exact ⟨hfrozen.1.mpr hkept, hfrozen.2 (hfrozen.1.mpr hkept) fun d hd => by cases hd⟩

/-- A number is wrapped in the declaration of an object, which then has two fields of one name. -/
theorem not_isFrozen_of_same_root :
    ¬ IsFrozen interfaceStyle "IRoot" {} [objectRoot, .root (.int 3) "Root"] ∧
      (performAll interfaceStyle {} [objectRoot, .root (.int 3) "Root"]).shapes.declarations.map
        (fun d => (d.name, d.fields.map (·.name))) =
          [(("IRoot" : Text), [("value" : Text), ("value" : Text)])] := by
  have hwraps : wrapper? interfaceStyle (.root (.int 3) "Root") =
      some (("IRoot" : Text), ⟨("value" : Text), ("value" : Text), .number true⟩) := by decide
  have htaken : (perform interfaceStyle {} objectRoot).shapes.contains "IRoot" = true := by decide
  have hrewraps : Rewraps interfaceStyle "IRoot" {} [objectRoot, .root (.int 3) "Root"] :=
    .later (.now hwraps (Shapes.contains_iff.mp htaken))
  exact ⟨hrewraps.not_isFrozen, by decide⟩

end InferenceCall

end SampleTypes
