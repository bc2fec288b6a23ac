import SampleTypes.Generation.Code
import SampleTypes.Proofs.Schema.Connected
import SampleTypes.Proofs.Target.Document

/-!
# The names in a schema

Every name in a schema was given by the style: those of declarations and those that fields refer to by
`NamingStyle.declarationName`, those of fields by a scope (`namedBy_ofValue`). So what is known of
the names that are given is known of the names in a schema, and its **declarations are clean**
(`clean_ofValue`): code can be written line by line.
-/

set_option autoImplicit false

namespace SampleTypes

open Text (IsName)

/-- A declaration in which every name was given by the style. -/
structure Declaration.NamedBy (style : NamingStyle) (d : Declaration) : Prop where
  name : ∃ hint fromKey, style.declarationName hint fromKey = d.name
  field : ∀ field ∈ d.fields, ∃ (scope : FieldScope) (key : Text),
    (scope.assign key).1 = field.name
  reference : ∀ field ∈ d.fields, ∀ name, field.type.reference? = some name →
    ∃ hint fromKey, style.declarationName hint fromKey = name
  filled : d.Filled

theorem exists_of_mem_memberFields {style : NamingStyle} {members : List (Text × Json)}
    {scope : FieldScope} {field : Field} (h : field ∈ memberFields style scope members) :
    ∃ (scope : FieldScope) (key : Text) (value : Json), field = memberField style scope key value := by
  induction members generalizing scope with
  | nil => exact absurd h (by simp [memberFields])
  | cons member members ih =>
    rcases List.mem_cons.mp h with rfl | h
    · exact ⟨scope, member.1, member.2, rfl⟩
    · exact ih h

theorem SampledObject.namedBy_declaration (style : NamingStyle) (o : SampledObject) :
    (o.declaration style).NamedBy style := by
  refine ⟨⟨o.hint, o.fromKey, (o.name_declaration style).symm⟩, ?_, ?_, o.filled_declaration style⟩
  · intro field hfield
    rw [o.fields_declaration style] at hfield
    obtain ⟨scope, key, value, rfl⟩ := exists_of_mem_memberFields hfield
    exact ⟨scope, key, rfl⟩
  · intro field hfield name hname
    rw [o.fields_declaration style] at hfield
    obtain ⟨scope, key, value, rfl⟩ := exists_of_mem_memberFields hfield
    rw [memberField, reference?_sampledType] at hname
    obtain ⟨held, _, hheld⟩ := Option.map_eq_some_iff.mp hname
    exact ⟨held.hint, held.fromKey, hheld⟩

/-- A schema declares objects of the sample or, if the root is none, what the root is wrapped in. -/
theorem exists_of_mem_ofValue {style : NamingStyle} {rootName : Text} {value : Json} {d : Declaration}
    (hd : d ∈ (Schema.ofValue style rootName value).declarations) :
    (∃ a o, objectAt? (rootObject rootName value) a = some o ∧ d = o.declaration style) ∨
      rootObject rootName value = none ∧
        d = { name := style.declarationName rootName false,
              fields := [wrapperField style rootName value] } := by
  have hperm := Traversal.perm_emission (built_inferRoot style rootName value).nodup_names
  have hstored : d ∈ (inferRoot style value rootName {}).2.shapes.declarations :=
    hperm.mem_iff.mp hd
  cases h : rootObject rootName value with
  | some o =>
    obtain ⟨owners, survey⟩ := exists_survey_last style rootName value
    rw [inferRoot_of_some h] at hstored
    obtain ⟨a, _, owner, howner, hd⟩ := survey.mem_iff.mp hstored
    exact Or.inl ⟨a, owner, h ▸ howner, hd⟩
  | none =>
    rw [declarations_of_none h, List.mem_singleton] at hstored
    exact Or.inr ⟨rfl, hstored⟩

/-- **Every name in a schema was given by the style.** -/
theorem namedBy_ofValue (style : NamingStyle) (rootName : Text) (value : Json) :
    ∀ d ∈ (Schema.ofValue style rootName value).declarations, d.NamedBy style := by
  intro d hd
  rcases exists_of_mem_ofValue hd with ⟨_, owner, _, rfl⟩ | ⟨hnone, rfl⟩
  · exact owner.namedBy_declaration style
  · have hreference : (wrapperField style rootName value).type.reference? = none :=
      reference?_of_none hnone
    refine ⟨⟨rootName, false, rfl⟩, ?_, ?_, ?_⟩
    · intro field hfield
      rw [List.mem_singleton.mp hfield]
      exact ⟨style.fieldScope, ("value" : Text), rfl⟩
    · intro field hfield name hname
      rw [List.mem_singleton.mp hfield, hreference] at hname
      exact absurd hname (by simp)
    · have hfilled := (built_inferRoot style rootName value).filled
      rw [declarations_of_none hnone] at hfilled
      exact hfilled _ (List.mem_singleton_self _)

/-- Emission keeps a schema connected. -/
theorem connected_ofValue (style : NamingStyle) (rootName : Text) (value : Json) :
    Connected (Schema.ofValue style rootName value).declarations
      (Schema.ofValue style rootName value).rootName :=
  have hfound := connected_inferRoot style rootName value
  hfound.perm (Traversal.perm_emission hfound.distinct)

theorem exists_root_ofValue (style : NamingStyle) (rootName : Text) (value : Json) :
    ∃ root ∈ (Schema.ofValue style rootName value).declarations,
      (Schema.ofValue style rootName value).root? = some root := by
  obtain ⟨d, hd, hname⟩ := List.mem_map.mp (connected_ofValue style rootName value).rooted
  have hsome : (Schema.ofValue style rootName value).root?.isSome :=
    List.find?_isSome.mpr ⟨d, hd, by simpa using hname⟩
  obtain ⟨root, hroot⟩ := Option.isSome_iff_exists.mp hsome
  exact ⟨root, List.mem_of_find?_eq_some hroot, hroot⟩

theorem declarations_ofValue_ne_nil (style : NamingStyle) (rootName : Text) (value : Json) :
    (Schema.ofValue style rootName value).declarations ≠ [] := by
  obtain ⟨root, hroot, _⟩ := exists_root_ofValue style rootName value
  exact List.ne_nil_of_mem hroot

/-! ## The names of a target -/

namespace Target

theorem isName_declarationName (target : Target) (suffix hint : Text) (fromKey : Bool) :
    IsName (target.convention.declarationName suffix hint fromKey) := by
  refine NamingConvention.isName_declarationName ?_ ?_ suffix hint fromKey
  · cases target <;> decide
  · cases target <;> decide

end Target

theorem Declaration.NamedBy.clean {target : Target} {suffix : Text} {d : Declaration}
    (h : d.NamedBy { convention := target.convention, suffix }) : d.Clean := by
  have hgiven : ∀ name, (∃ hint fromKey, NamingStyle.declarationName
      { convention := target.convention, suffix } hint fromKey = name) → IsName name := by
    rintro name ⟨hint, fromKey, rfl⟩
    exact target.isName_declarationName suffix hint fromKey
  refine ⟨hgiven _ h.name, fun field hfield => ?_, fun field hfield name hname => ?_, h.filled⟩
  · obtain ⟨scope, key, hname⟩ := h.field field hfield
    rw [← hname]
    exact FieldScope.isName_assign scope key
  · exact hgiven name (h.reference field hfield name hname)

/-- **The declarations of a schema for a target are clean.** -/
theorem clean_ofValue (generator : Generator) (suffix rootName : Text) (value : Json) :
    ∀ d ∈ (Schema.ofValue (generator.style suffix) rootName value).declarations, d.Clean :=
  fun d hd => (namedBy_ofValue (generator.style suffix) rootName value d hd).clean

/-- What a skipped reference joins are names. -/
theorem isName_of_mem_skipped (generator : Generator) (suffix rootName : Text) (value : Json) :
    ∀ e ∈ (Schema.ofValue (generator.style suffix) rootName value).skipped,
      IsName e.1 ∧ IsName e.2 := by
  intro e he
  have hbuilt := built_inferRoot (generator.style suffix) rootName value
  have hperm := Traversal.perm_emission hbuilt.nodup_names
  have hname : ∀ d ∈ (inferRoot (generator.style suffix) value rootName {}).2.shapes.declarations,
      IsName d.name :=
    fun d hd => (clean_ofValue generator suffix rootName value d (hperm.mem_iff.mpr hd)).name
  obtain ⟨hedge, hstored, _⟩ := (Shapes.mem_skipped_emission_iff hbuilt).mp he
  obtain ⟨d, hd, hsource, _⟩ := mem_edgesOf.mp hedge
  obtain ⟨d', hd', htarget⟩ := List.mem_map.mp hstored
  exact ⟨hsource ▸ hname d hd, htarget ▸ hname d' hd'⟩

end SampleTypes
