import Mathlib.Data.List.Nodup
import SampleTypes.Proofs.Lists
import SampleTypes.Schema.Shapes

/-!
# What a store holds

A store is grown in two ways only: a declaration is put at its end under a name that is free, and a
field is added to a declaration that is there. Two facts follow and are all that the order of
emission asks of a store:

* **every name is stored once** (`Shapes.Built.nodup_names`), so a name and a declaration determine
  each other;
* **every dependency is noted once** (`Declaration.Filled.nodup_dependencies`), and it is noted iff
  some field refers to it (`Declaration.Filled.mem_dependencies_iff`).
-/

set_option autoImplicit false

namespace SampleTypes

/-! ## What a type refers to -/

/-- A type points at a name iff it is that name within lists. -/
theorem FieldType.reference?_eq_some_iff {type : FieldType} {name : Text} :
    type.reference? = some name ↔ ∃ depth, type = nested depth (.ref name) := by
  induction type with
  | list element ih =>
    constructor
    · intro h
      obtain ⟨depth, rfl⟩ := ih.mp h
      exact ⟨depth + 1, rfl⟩
    · rintro ⟨depth, h⟩
      cases depth with
      | zero => exact absurd h (by simp [nested])
      | succ depth => exact ih.mpr ⟨depth, FieldType.list.inj h⟩
  | ref other =>
    constructor
    · intro h
      exact ⟨0, congrArg _ (Option.some.inj h)⟩
    · rintro ⟨depth, h⟩
      cases depth with
      | zero => exact congrArg some (FieldType.ref.inj h)
      | succ depth => exact absurd h (by simp [nested])
  | string | number | boolean | any =>
    constructor
    · intro h
      exact absurd h (by simp [reference?, element])
    · rintro ⟨depth, h⟩
      cases depth <;> exact absurd h (by simp [nested])

/-! ## Declarations that were filled field by field -/

namespace Declaration

/-- A declaration that began without fields and was given each of them by `addField`. -/
inductive Filled : Declaration → Prop
  | empty (name : Text) : Filled { name }
  | addField {d : Declaration} (field : Field) : Filled d → Filled (d.addField field)

theorem noteDependency_of_mem {names : List Text} {name : Text} (h : name ∈ names) :
    noteDependency names (some name) = names := by
  rw [noteDependency, if_pos (by simpa using h)]

theorem noteDependency_of_notMem {names : List Text} {name : Text} (h : name ∉ names) :
    noteDependency names (some name) = names ++ [name] := by
  rw [noteDependency, if_neg (by simpa using h)]

theorem mem_noteDependency {names : List Text} {reference : Option Text} {name : Text} :
    name ∈ noteDependency names reference ↔ name ∈ names ∨ reference = some name := by
  cases reference with
  | none => simp [noteDependency]
  | some other =>
    by_cases h : other ∈ names
    · rw [noteDependency_of_mem h]
      constructor
      · exact Or.inl
      · rintro (hn | hn)
        · exact hn
        · exact Option.some.inj hn ▸ h
    · rw [noteDependency_of_notMem h]
      simp [eq_comm]

theorem nodup_noteDependency {names : List Text} (hn : names.Nodup) (reference : Option Text) :
    (noteDependency names reference).Nodup := by
  cases reference with
  | none => exact hn
  | some other =>
    by_cases h : other ∈ names
    · rwa [noteDependency_of_mem h]
    · rw [noteDependency_of_notMem h]
      simpa using List.Nodup.concat h hn

theorem Filled.nodup_dependencies {d : Declaration} (h : d.Filled) : d.dependencies.Nodup := by
  induction h with
  | empty name => exact List.nodup_nil
  | addField field _ ih => exact nodup_noteDependency ih _

/-- A dependency is noted iff some field refers to it, through any number of lists. -/
theorem Filled.mem_dependencies_iff {d : Declaration} (h : d.Filled) {name : Text} :
    name ∈ d.dependencies ↔ ∃ field ∈ d.fields, field.type.reference? = some name := by
  induction h with
  | empty name => simp
  | addField field _ ih =>
    simp only [Declaration.addField, mem_noteDependency, ih, List.mem_append, List.mem_singleton]
    constructor
    · rintro (⟨f, hf, hr⟩ | hr)
      · exact ⟨f, Or.inl hf, hr⟩
      · exact ⟨field, Or.inr rfl, hr⟩
    · rintro ⟨f, hf | rfl, hr⟩
      · exact Or.inl ⟨f, hf, hr⟩
      · exact Or.inr hr

/-- The dependencies are what the fields refer to, each at its first reference. -/
theorem Filled.dependencies_eq {d : Declaration} (h : d.Filled) :
    d.dependencies = (d.fields.filterMap (·.type.reference?)).eraseDups := by
  induction h with
  | empty name => rfl
  | @addField d field _ ih =>
    show noteDependency d.dependencies field.type.reference? =
      ((d.fields ++ [field]).filterMap (·.type.reference?)).eraseDups
    rw [List.filterMap_append, ih]
    cases href : field.type.reference? with
    | none => simp [href, noteDependency]
    | some name =>
      have hone : [field].filterMap (·.type.reference?) = [name] := by simp [href]
      rw [hone]
      by_cases hmem : name ∈ d.fields.filterMap (·.type.reference?)
      · rw [eraseDups_snoc_of_mem hmem, noteDependency_of_mem (by simpa using hmem)]
      · rw [eraseDups_snoc_of_notMem hmem, noteDependency_of_notMem (by simpa using hmem)]

/-- Many fields, one after another. -/
theorem Filled.addFields {d : Declaration} (h : d.Filled) (fields : List Field) :
    (fields.foldl Declaration.addField d).Filled := by
  induction fields generalizing d with
  | nil => exact h
  | cons field fields ih => exact ih (.addField field h)

theorem name_addFields (d : Declaration) (fields : List Field) :
    (fields.foldl Declaration.addField d).name = d.name := by
  induction fields generalizing d with
  | nil => rfl
  | cons field fields ih => exact ih (d.addField field)

theorem fields_addFields (d : Declaration) (fields : List Field) :
    (fields.foldl Declaration.addField d).fields = d.fields ++ fields := by
  induction fields generalizing d with
  | nil => simp
  | cons field fields ih => rw [List.foldl_cons, ih]; simp [addField]

theorem dependencies_addFields (d : Declaration) (fields : List Field) :
    (fields.foldl Declaration.addField d).dependencies =
      (fields.map (·.type.reference?)).foldl noteDependency d.dependencies := by
  induction fields generalizing d with
  | nil => rfl
  | cons field fields ih => exact ih (d.addField field)

/-- Names are noted at the end. -/
theorem prefix_foldl_noteDependency (names : List Text) (references : List (Option Text)) :
    names <+: references.foldl noteDependency names := by
  induction references generalizing names with
  | nil => exact List.prefix_refl _
  | cons reference references ih =>
    refine List.IsPrefix.trans ?_ (ih (noteDependency names reference))
    cases reference with
    | none => exact List.prefix_refl _
    | some name =>
      by_cases h : name ∈ names
      · exact (noteDependency_of_mem h).symm ▸ List.prefix_refl names
      · rw [noteDependency_of_notMem h]
        exact List.prefix_append _ _

end Declaration

/-! ## Names and look-up -/

namespace Shapes

theorem contains_iff {shapes : Shapes} {name : Text} :
    shapes.contains name = true ↔ name ∈ shapes.names := by
  simp [contains, names]

theorem names_addField (shapes : Shapes) (name : Text) (field : Field) :
    (shapes.addField name field).names = shapes.names := by
  simp only [names, addField, List.map_map]
  refine List.map_congr_left fun d _ => ?_
  simp only [Function.comp]
  split <;> rfl

theorem insertIfNew_of_free {shapes : Shapes} {d : Declaration} (h : d.name ∉ shapes.names) :
    (shapes.insertIfNew d).declarations = shapes.declarations ++ [d] := by
  rw [insertIfNew, if_neg (by rwa [contains_iff])]

theorem insertIfNew_of_taken {shapes : Shapes} {d : Declaration} (h : d.name ∈ shapes.names) :
    shapes.insertIfNew d = shapes := by
  rw [insertIfNew, if_pos (contains_iff.mpr h)]

theorem find?_eq_none_iff {shapes : Shapes} {name : Text} :
    shapes.find? name = none ↔ name ∉ shapes.names := by
  simp [find?, names]

/-- What is found under a name has that name and is stored. -/
theorem mem_of_find? {shapes : Shapes} {name : Text} {d : Declaration}
    (h : shapes.find? name = some d) : d ∈ shapes.declarations ∧ d.name = name := by
  rw [find?] at h
  exact ⟨List.mem_of_find?_eq_some h, by simpa using List.find?_some h⟩

/-- To look a name up and to add fields agree, as fields change no name. -/
theorem find?_addField (shapes : Shapes) (other name : Text) (field : Field) :
    (shapes.addField other field).find? name =
      (shapes.find? name).map fun d => if d.name = other then d.addField field else d := by
  have hnames : (fun d : Declaration => d.name == name) ∘
      (fun d => if d.name = other then d.addField field else d) = (·.name == name) := by
    funext d
    simp only [Function.comp]
    split <;> rfl
  rw [find?, find?, addField, List.find?_map, hnames]

theorem find?_addField_of_ne {other name : Text} (shapes : Shapes) (field : Field)
    (h : other ≠ name) : (shapes.addField other field).find? name = shapes.find? name := by
  have hkept : ∀ d ∈ shapes.find? name,
      (if d.name = other then d.addField field else d) = id d := fun d hd =>
    if_neg fun he : d.name = other => h (he ▸ (mem_of_find? hd).2)
  rw [find?_addField, Option.map_congr hkept, Option.map_id_apply]

theorem find?_addField_self {shapes : Shapes} {name : Text} {d : Declaration} (field : Field)
    (h : shapes.find? name = some d) :
    (shapes.addField name field).find? name = some (d.addField field) := by
  rw [find?_addField, h, Option.map_some, if_pos (mem_of_find? h).2]

theorem find?_insertIfNew_of_some {shapes : Shapes} {name : Text} {d : Declaration}
    (e : Declaration) (h : shapes.find? name = some d) :
    (shapes.insertIfNew e).find? name = some d := by
  rw [insertIfNew]
  split
  · exact h
  · rw [find?, List.find?_append]
    exact congrArg (Option.or · _) h

theorem find?_insertIfNew_of_ne (shapes : Shapes) {name : Text} {e : Declaration}
    (h : e.name ≠ name) : (shapes.insertIfNew e).find? name = shapes.find? name := by
  rw [insertIfNew]
  split
  · rfl
  · rw [find?, List.find?_append]
    simp [find?, h]

theorem find?_insertIfNew_self {shapes : Shapes} {e : Declaration} (h : e.name ∉ shapes.names) :
    (shapes.insertIfNew e).find? e.name = some e := by
  rw [find?, insertIfNew_of_free h, List.find?_append]
  have hnone : shapes.declarations.find? (·.name == e.name) = none := find?_eq_none_iff.mpr h
  rw [hnone]
  simp

/-- Two stored declarations of one name are the same. -/
theorem eq_of_name_eq {ds : List Declaration} (hn : (ds.map (·.name)).Nodup) {d e : Declaration}
    (hd : d ∈ ds) (he : e ∈ ds) (h : d.name = e.name) : d = e :=
  List.inj_on_of_nodup_map hn hd he h

theorem exists_find?_of_mem_names {shapes : Shapes} {name : Text} (h : name ∈ shapes.names) :
    ∃ d, shapes.find? name = some d :=
  Option.ne_none_iff_exists'.mp fun hn => find?_eq_none_iff.mp hn h

theorem mem_names_of_find? {shapes : Shapes} {name : Text} {d : Declaration}
    (h : shapes.find? name = some d) : name ∈ shapes.names := by
  obtain ⟨hmem, rfl⟩ := mem_of_find? h
  exact List.mem_map_of_mem hmem

theorem find?_of_mem {shapes : Shapes} (hn : shapes.names.Nodup) {d : Declaration}
    (hd : d ∈ shapes.declarations) : shapes.find? d.name = some d := by
  cases hf : shapes.find? d.name with
  | none => exact absurd (List.mem_map_of_mem hd) (find?_eq_none_iff.mp hf)
  | some e =>
    obtain ⟨he, hname⟩ := mem_of_find? hf
    rw [eq_of_name_eq hn he hd hname]

/-! ## Stores that were grown -/

/-- A store that began empty, took filled declarations, and was given fields. -/
inductive Built : Shapes → Prop
  | empty : Built {}
  | insert {shapes : Shapes} {d : Declaration} :
      Built shapes → d.Filled → Built (shapes.insertIfNew d)
  | addField {shapes : Shapes} (name : Text) (field : Field) :
      Built shapes → Built (shapes.addField name field)

/-- **A name is stored once.** -/
theorem Built.nodup_names {shapes : Shapes} (h : shapes.Built) : shapes.names.Nodup := by
  induction h with
  | empty => exact List.nodup_nil
  | @insert shapes d _ _ ih =>
    by_cases hd : d.name ∈ shapes.names
    · rwa [insertIfNew_of_taken hd]
    · rw [names, insertIfNew_of_free hd, List.map_append]
      simpa [names] using List.Nodup.concat hd ih
  | addField name field _ ih => rwa [names_addField]

theorem Built.filled {shapes : Shapes} (h : shapes.Built) :
    ∀ d ∈ shapes.declarations, d.Filled := by
  induction h with
  | empty => intro d hd; exact absurd hd (by simp)
  | @insert shapes e _ he ih =>
    intro d hd
    by_cases hn : e.name ∈ shapes.names
    · exact ih d (by rwa [insertIfNew_of_taken hn] at hd)
    · rw [insertIfNew_of_free hn] at hd
      rcases List.mem_append.mp hd with hd | hd
      · exact ih d hd
      · exact List.mem_singleton.mp hd ▸ he
  | addField name field _ ih =>
    intro d hd
    obtain ⟨e, he, rfl⟩ := List.mem_map.mp hd
    split
    · exact .addField field (ih e he)
    · exact ih e he

end Shapes

end SampleTypes
