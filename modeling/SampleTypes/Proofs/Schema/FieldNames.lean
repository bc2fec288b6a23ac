import SampleTypes.Proofs.Inference.Calls
import SampleTypes.Proofs.Naming.Reserved
import SampleTypes.Proofs.Schema.Named

/-!
# The names of fields

The fields of a declaration are named by one scope, which is new for each declaration: their names are
those that it gives to their keys, one after another (`names_fields_ofValue`). So what is known of a
scope is known of every declaration: **no two of its fields have the same name**, and in Java **none has
a reserved one**, whatever the keys are.
-/

set_option autoImplicit false

namespace SampleTypes

theorem SampledObject.keys_declaration (style : NamingStyle) (o : SampledObject) :
    (o.declaration style).fields.map (·.key) = o.members.map (·.1) := by
  rw [o.fields_declaration style]
  exact (map_eq_map_of_forall₂ (forall₂_memberFields style style.fieldScope o.members)
    fun _ _ h => h.1.symm).symm

/-- **The fields of a declaration are named by one scope**, one after another. -/
theorem names_fields_ofValue {style : NamingStyle} {rootName : Text} {value : Json} {d : Declaration}
    (hd : d ∈ (Schema.ofValue style rootName value).declarations) :
    d.fields.map (·.name) =
      style.fieldScope.assignAll ((d.fields.map (·.key)).map (·, ("_" : Text))) := by
  rcases exists_of_mem_ofValue hd with ⟨_, o, _, rfl⟩ | ⟨_, rfl⟩
  · rw [o.keys_declaration style, o.fields_declaration style, names_memberFields, List.map_map]
    rfl
  · rfl

/-- The fields of a declaration have the keys of an object of its name, or the one of a wrapper. -/
theorem keys_fields_ofValue {style : NamingStyle} {rootName : Text} {value : Json} {d : Declaration}
    (hd : d ∈ (Schema.ofValue style rootName value).declarations) :
    (∃ a o, objectAt? (rootObject rootName value) a = some o ∧ d.name = o.name style ∧
        d.fields.map (·.key) = o.members.map (·.1)) ∨
      rootObject rootName value = none ∧ d.fields.map (·.key) = [("value" : Text)] := by
  rcases exists_of_mem_ofValue hd with ⟨a, o, ho, rfl⟩ | ⟨hnone, rfl⟩
  · exact Or.inl ⟨a, o, ho, o.name_declaration style, o.keys_declaration style⟩
  · exact Or.inr ⟨hnone, rfl⟩

/-- **Fields have names of their own, and in Java none that is reserved.** Whatever a scope has given so
far, its search for the name of the next key ends, at the first form that is free, whatever the key and
the suffix; so the names that it gives are distinct, whatever is reserved. In a schema the fields of a
declaration have distinct names and the keys of an object, each once in its order, or else the one of a
wrapper; and in a schema for Java no field is called by a reserved word. -/
theorem names_ofValue_usable :
    (∀ (scope : FieldScope) (key suffix : Text), ∃ n ≤ scope.taken.length + 1,
      FieldScope.EndsAt scope.taken (scope.allowed key suffix) suffix n ∧
        (scope.assign key suffix).1 =
          FieldScope.candidate (scope.allowed key suffix) suffix n) ∧
    (∀ (reserved : List Text) (keys : List (Text × Text)),
      (FieldScope.assignAll { reserved } keys).Nodup) ∧
    (∀ (style : NamingStyle) (rootName : Text) (value : Json),
      ∀ d ∈ (Schema.ofValue style rootName value).declarations, d.HasDistinctNames ∧
        ((∃ a o, objectAt? (rootObject rootName value) a = some o ∧ d.name = o.name style ∧
            d.fields.map (·.key) = o.members.map (·.1)) ∨
          rootObject rootName value = none ∧ d.fields.map (·.key) = [("value" : Text)])) ∧
    ∀ (suffix rootName : Text) (value : Json),
      ∀ d ∈ (Schema.ofValue { convention := Target.java.convention, suffix } rootName
          value).declarations,
        ∀ field ∈ d.fields, field.name ∉ Target.javaReserved := by
  refine ⟨FieldScope.assign_endsAt, fun reserved keys => (FieldScope.nodup_assignAll _ keys).1,
    fun style rootName value d hd => ⟨?_, keys_fields_ofValue hd⟩,
    fun suffix rootName value d hd field hfield => ?_⟩
  · rw [Declaration.HasDistinctNames, names_fields_ofValue hd]
    exact (style.fieldScope.nodup_assignAll _).1
  · have hgiven : field.name ∈ d.fields.map (·.name) := List.mem_map_of_mem hfield
    rw [names_fields_ofValue hd] at hgiven
    exact Target.avoidsReserved_java (d.fields.map Field.key) field.name hgiven

end SampleTypes
