import Mathlib
import SampleTypes.Proofs.Naming.Identifiers
import SampleTypes.Proofs.Schema.Named

/-!
# Schemas of legal identifiers

Words are made of letters and numbers of any kind, but of the numbers that are no decimal digits only
those made of letters may stand in an identifier. So the names in a schema are legal **iff there is no
such number in the name of the root, in the suffix and in the keys** that were sampled
(`Target.isIdentifier_ofValue_iff`).

Every name goes back to one of them: a field's to its key, the root's to the name of the root, and any
other declaration's to the key of a field that refers to it, as all of them can be reached from the root.
What arrays add to a hint is `Item`, which holds no number.
-/

set_option autoImplicit false

namespace SampleTypes

open Text (IsIdentifier)

/-! ## What names go back to -/

theorem Place.hasOtherNumber_label_item (place : Place) :
    place.item.label.hasOtherNumber = place.label.hasOtherNumber := by
  have hlonger : (place.hint ++ ("Item" : Text)).hasOtherNumber = place.hint.hasOtherNumber := by
    rw [Text.hasOtherNumber_append, show ("Item" : Text).hasOtherNumber = false by decide,
      Bool.or_false]
  obtain ⟨hint, _ | _ | ⟨c, key⟩⟩ := place
  · exact hlonger
  · exact hlonger
  · rfl

/-- The hint of a sampled object is the label of the place where it was met, with `Item` for arrays. -/
theorem SampledObject.hasOtherNumber_hint {value : Json} {place : Place} {fromKey : Bool}
    {o : SampledObject} (h : SampledObject.of? value place fromKey = some o) :
    o.hint.hasOtherNumber = place.label.hasOtherNumber ∧ o.fromKey = fromKey := by
  induction value, place, fromKey using SampledObject.of?.induct with
  | case1 first rest place fromKey ih =>
    have hitem := place.hasOtherNumber_label_item
    obtain ⟨hhint, hfromKey⟩ := ih h
    exact ⟨hhint.trans hitem, hfromKey⟩
  | case2 members place fromKey =>
    obtain rfl := Option.some.inj h
    exact ⟨rfl, rfl⟩
  | case3 value place fromKey harray hobject =>
    rw [SampledObject.of?] at h
    · exact absurd h (by simp)
    · exact harray
    · exact hobject

theorem rootName_ofValue (style : NamingStyle) (rootName : Text) (value : Json) :
    ∃ hint, (Schema.ofValue style rootName value).rootName = style.declarationName hint false ∧
      hint.hasOtherNumber = rootName.hasOtherNumber := by
  show ∃ hint, (inferRoot style value rootName {}).1 = _ ∧ _
  cases h : rootObject rootName value with
  | some o =>
    obtain ⟨hhint, hfromKey⟩ := SampledObject.hasOtherNumber_hint h
    refine ⟨o.hint, ?_, hhint⟩
    rw [inferRoot_of_some h, SampledObject.name, hfromKey]
  | none => exact ⟨rootName, by rw [inferRoot_of_none h], rfl⟩

/-- A field is named after its key, and refers to what is named after its key. -/
structure Field.KeyedBy (style : NamingStyle) (field : Field) : Prop where
  name : ∃ scope : FieldScope, (scope.assign field.key).1 = field.name
  reference : ∀ name, field.type.reference? = some name →
    ∃ hint, name = style.declarationName hint true ∧
      hint.hasOtherNumber = field.key.hasOtherNumber

theorem label_ofKey (key : Text) : (Place.ofKey key).label = key := by
  cases key <;> rfl

theorem keyedBy_memberField (style : NamingStyle) (scope : FieldScope) (key : Text) (value : Json) :
    (memberField style scope key value).KeyedBy style := by
  refine ⟨⟨scope, rfl⟩, fun name hname => ?_⟩
  rw [memberField, reference?_sampledType] at hname
  obtain ⟨held, hheld, rfl⟩ := Option.map_eq_some_iff.mp hname
  obtain ⟨hhint, hfromKey⟩ := SampledObject.hasOtherNumber_hint hheld
  rw [label_ofKey] at hhint
  exact ⟨held.hint, by rw [SampledObject.name, hfromKey], hhint⟩

theorem keyedBy_ofValue (style : NamingStyle) (rootName : Text) (value : Json) :
    ∀ d ∈ (Schema.ofValue style rootName value).declarations, ∀ field ∈ d.fields,
      field.KeyedBy style := by
  intro d hd field hfield
  rcases exists_of_mem_ofValue hd with ⟨_, o, _, rfl⟩ | ⟨hnone, rfl⟩
  · rw [o.fields_declaration style] at hfield
    obtain ⟨scope, key, member, rfl⟩ := exists_of_mem_memberFields hfield
    exact keyedBy_memberField style scope key member
  · rw [List.mem_singleton.mp hfield]
    refine ⟨⟨style.fieldScope, rfl⟩, fun name hname => ?_⟩
    rw [show (wrapperField style rootName value).type.reference? = none from
      reference?_of_none hnone] at hname
    exact absurd hname (by simp)

/-- A declaration is the root's, or a field of a schema refers to it. -/
theorem Connected.eq_or_exists_field {ds : List Declaration} {rootName : Text}
    (h : Connected ds rootName) {d : Declaration} (hd : d ∈ ds) : d.name = rootName ∨
      ∃ holder ∈ ds, ∃ field ∈ holder.fields, field.type.reference? = some d.name := by
  rcases Relation.ReflTransGen.cases_tail (h.reachable d hd) with hroot | ⟨source, _, hedge⟩
  · exact Or.inl hroot
  · obtain ⟨holder, hholder, _, hname⟩ := mem_edgesOf.mp hedge
    exact Or.inr ⟨holder, hholder, (h.filled holder hholder).mem_dependencies_iff.mp hname⟩

/-! ## Legal names -/

namespace Target

theorem isIdentifier_declarationName_iff (target : Target) {suffix hint : Text} {fromKey : Bool} :
    (NamingStyle.declarationName { convention := target.convention, suffix } hint
      fromKey).IsIdentifier ↔ hint.hasOtherNumber = false ∧ suffix.hasOtherNumber = false := by
  refine NamingConvention.isIdentifier_declarationName_iff ?_ ?_
  · cases target with
    | typescript => exact Or.inr ⟨_, _, rfl, by decide, by simp⟩
    | java => exact Or.inl rfl
  · cases target with
    | typescript => exact List.forall_mem_nil _
    | java =>
      show ∀ c ∈ ("Dto" : Text), c.isIdentifierPart = true
      decide

/-- **The names of a schema are legal identifiers iff there is no number but decimal digits and those
made of letters in what they are made from**: the name of the root, the suffix and the keys of the
fields. -/
theorem isIdentifier_ofValue_iff (target : Target) (suffix rootName : Text) (value : Json) :
    (∀ d ∈ (Schema.ofValue { convention := target.convention, suffix } rootName value).declarations,
      d.name.IsIdentifier ∧ ∀ field ∈ d.fields, field.name.IsIdentifier) ↔
    rootName.hasOtherNumber = false ∧ suffix.hasOtherNumber = false ∧
      ∀ d ∈ (Schema.ofValue { convention := target.convention, suffix } rootName value).declarations,
        ∀ field ∈ d.fields, field.key.hasOtherNumber = false := by
  generalize hstyle : ({ convention := target.convention, suffix } : NamingStyle) = style
  have hdeclared : ∀ {hint fromKey}, (style.declarationName hint fromKey).IsIdentifier ↔
      hint.hasOtherNumber = false ∧ suffix.hasOtherNumber = false := by
    rw [← hstyle]
    exact target.isIdentifier_declarationName_iff
  have hconnected := connected_ofValue style rootName value
  have hkeyed := keyedBy_ofValue style rootName value
  obtain ⟨rootHint, hroot, hrootHint⟩ := rootName_ofValue style rootName value
  constructor
  · intro h
    obtain ⟨root, hmem, hname⟩ := List.mem_map.mp hconnected.rooted
    have hlegal := (h root hmem).1
    rw [hname, hroot, hdeclared, hrootHint] at hlegal
    refine ⟨hlegal.1, hlegal.2, fun d hd field hfield => ?_⟩
    obtain ⟨scope, hassigned⟩ := (hkeyed d hd field hfield).name
    have hfieldLegal := (h d hd).2 field hfield
    rwa [← hassigned, FieldScope.isIdentifier_assign_iff] at hfieldLegal
  · rintro ⟨hrootName, hsuffix, hkeys⟩ d hd
    refine ⟨?_, fun field hfield => ?_⟩
    · rcases hconnected.eq_or_exists_field hd with hname | ⟨holder, hholder, field, hfield, href⟩
      · rw [hname, hroot, hdeclared, hrootHint]
        exact ⟨hrootName, hsuffix⟩
      · obtain ⟨hint, hname, hhint⟩ := (hkeyed holder hholder field hfield).reference d.name href
        rw [hname, hdeclared, hhint]
        exact ⟨hkeys holder hholder field hfield, hsuffix⟩
    · obtain ⟨scope, hassigned⟩ := (hkeyed d hd field hfield).name
      rw [← hassigned, FieldScope.isIdentifier_assign_iff]
      exact hkeys d hd field hfield

/-- The field of the key `½` is called so, and that is no identifier. -/
theorem not_isIdentifier_of_fraction :
    (Schema.infer { convention := typescript.convention } "Root" "\x7b\"½\":1\x7d".toList).map
        (fun schema => schema.declarations.map fun d => d.fields.map (·.name)) =
      .ok [[("½" : Text)]] ∧
    ¬ Text.IsIdentifier ("½" : Text) := by
  refine ⟨by cbv, ?_⟩
  rintro ⟨first, rest, heq, hfirst, -⟩
  rw [← (List.cons.inj heq).1] at hfirst
  exact absurd hfirst (by decide)

end Target

end SampleTypes
