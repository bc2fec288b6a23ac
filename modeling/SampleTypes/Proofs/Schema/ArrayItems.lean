import SampleTypes.Proofs.Naming.PascalCase
import SampleTypes.Proofs.Schema.Named

/-!
# What the items of arrays are named after

The object that an array holds is named after the key of the array, as it would be if it stood there
itself, and each further array adds `Item` (`itemHint`). So it is for every key but one: an empty key
holds nothing (`Place.item`), and the first array under it adds an `Item` already. **An object within
arrays is named after its key iff the key is not empty** (`named_after_key_iff`), whatever the suffix
and the convention are, because hints that differ in the number of `Item` are named differently.
-/

set_option autoImplicit false

namespace SampleTypes

/-! ## Hints -/

/-- A hint with `Item` after it, so many times. -/
def itemHint (hint : Text) (n : Nat) : Text := hint ++ (List.replicate n ("Item" : Text)).flatten

theorem itemHint_zero (hint : Text) : itemHint hint 0 = hint := List.append_nil hint

theorem itemHint_item (hint : Text) (n : Nat) :
    itemHint (hint ++ ("Item" : Text)) n = itemHint hint (n + 1) := by
  rw [itemHint, itemHint, List.replicate_succ, List.flatten_cons, List.append_assoc]

namespace Place

/-- Without a key, every array adds an `Item`. -/
theorem iterate_item_of_none (hint : Text) (n : Nat) :
    item^[n] ⟨hint, none⟩ = ⟨itemHint hint n, none⟩ := by
  induction n generalizing hint with
  | zero => rw [itemHint_zero]; rfl
  | succ n ih =>
    rw [Function.iterate_succ_apply, item, ih, itemHint_item]

/-- Under a key, every array but the first adds an `Item`, and under the empty key every array. -/
theorem label_iterate_item (key : Text) (n : Nat) :
    (item^[n] (ofKey key)).label = itemHint key (if key = [] then n else n - 1) := by
  cases n with
  | zero => cases key <;> exact (itemHint_zero _).symm
  | succ n =>
    cases key with
    | nil =>
      rw [Function.iterate_succ_apply, if_pos rfl, ← itemHint_item]
      exact congrArg label (iterate_item_of_none _ n)
    | cons c key =>
      rw [Function.iterate_succ_apply, if_neg (List.cons_ne_nil c key), Nat.add_sub_cancel]
      exact congrArg label (iterate_item_of_none _ n)

end Place

/-! ## Hints that are named differently -/

namespace NamingConvention

/-- Hints of nothing but `Item` are in Pascal case. -/
theorem baseName_itemHint_succ (n : Nat) : baseName (itemHint [] (n + 1)) = itemHint [] (n + 1) := by
  have hopens : itemHint [] (n + 1) = ("Item" : Text) ++ itemHint [] n := rfl
  have hword : Text.IsWord (itemHint [] (n + 1)) := by
    refine ⟨hopens ▸ List.append_ne_nil_of_left_ne_nil (by decide) _, fun c hc => ?_⟩
    obtain ⟨item, hitem, hc⟩ := List.mem_flatten.mp hc
    rw [List.eq_of_mem_replicate hitem] at hc
    exact (show ∀ c ∈ ("Item" : Text), c.isWord = true by decide) c hc
  have hcapital : ("Item" : Text).capitalize = ("Item" : Text) := by decide
  have hpascal : (itemHint [] (n + 1)).pascalCase = itemHint [] (n + 1) := by
    rw [Text.pascalCase, Text.words_of_isWord hword, List.flatMap_singleton, hopens]
    exact congrArg (· ++ itemHint [] n) hcapital
  rw [baseName, hpascal, if_neg (by simpa using hword.1)]

theorem length_itemHint_nil (n : Nat) : (itemHint [] n).length = 4 * n := by
  have hitem : ("Item" : Text).length = 4 := rfl
  rw [itemHint, List.nil_append, List.length_flatten, List.map_replicate, hitem,
    List.sum_replicate_nat, Nat.mul_comm]

/-- One `Item` more is another name. -/
theorem baseName_itemHint_succ_ne (n : Nat) :
    baseName (itemHint [] (n + 1)) ≠ baseName (itemHint [] n) := by
  intro h
  have hlength := congrArg List.length h
  rw [baseName_itemHint_succ, length_itemHint_nil] at hlength
  cases n with
  | zero => exact absurd hlength (by decide)
  | succ n =>
    rw [baseName_itemHint_succ, length_itemHint_nil] at hlength
    omega

end NamingConvention

/-! ## Objects within arrays -/

/-- A value is so many arrays around an object of those members, each the first element of the next. -/
inductive Json.Holds : Json → Nat → List (Text × Json) → Prop
  | object (members : List (Text × Json)) : Holds (.obj members) 0 members
  | first {value : Json} {values : List Json} {n : Nat} {members : List (Text × Json)}
      (h : Holds value n members) : Holds (.arr (value :: values)) (n + 1) members

theorem Json.Holds.sampledType_eq {value : Json} {n : Nat} {members : List (Text × Json)}
    (h : value.Holds n members) (style : NamingStyle) (fromKey : Bool) (place : Place) :
    sampledType style fromKey value place =
      .nested n (.ref (style.declarationName (Place.item^[n] place).label fromKey)) := by
  induction h generalizing place with
  | object members => rfl
  | first h ih =>
    rw [sampledType, ih, Function.iterate_succ_apply]
    rfl

theorem Json.Holds.sampledType_ofKey {value : Json} {n : Nat} {members : List (Text × Json)}
    (h : value.Holds n members) (style : NamingStyle) (key : Text) :
    sampledType style true value (.ofKey key) = .nested n
      (.ref (style.declarationName (itemHint key (if key = [] then n else n - 1)) true)) := by
  rw [h.sampledType_eq, Place.label_iterate_item]

theorem FieldType.reference?_nested (n : Nat) (name : Text) :
    (FieldType.nested n (.ref name)).reference? = some name :=
  reference?_eq_some_iff.mpr ⟨n, rfl⟩

theorem SampledObject.exists_field (style : NamingStyle) {o : SampledObject} {i : Nat} {key : Text}
    {value : Json} (h : o.members[i]? = some (key, value)) :
    ∃ field, (o.declaration style).fields[i]? = some field ∧ field.key = key ∧
      field.type = sampledType style true value (.ofKey key) := by
  have hfields : ∀ (scope : FieldScope) (members : List (Text × Json)),
      (memberFields style scope members).map (fun field => (field.key, field.type)) =
        members.map fun member => (member.1, sampledType style true member.2 (.ofKey member.1)) := by
    intro scope members
    induction members generalizing scope with
    | nil => rfl
    | cons member members ih => rw [memberFields, List.map_cons, List.map_cons, ih]
  have hi := congrArg (·[i]?) (hfields style.fieldScope o.members)
  simp only [List.getElem?_map, h, Option.map_some] at hi
  obtain ⟨field, hfield, heq⟩ := Option.map_eq_some_iff.mp hi
  rw [o.fields_declaration style]
  exact ⟨field, hfield, (Prod.mk.inj heq).1, (Prod.mk.inj heq).2⟩

/-- A key lends its name to the object within arrays under it iff it is not empty. -/
theorem NamingStyle.declarationName_item_eq_iff (style : NamingStyle) (key : Text) {n : Nat}
    (hn : 1 ≤ n) :
    style.declarationName (itemHint key (if key = [] then n else n - 1)) true =
      style.declarationName (itemHint key (n - 1)) true ↔ key ≠ [] := by
  obtain ⟨m, rfl⟩ := Nat.exists_eq_succ_of_ne_zero (Nat.one_le_iff_ne_zero.mp hn)
  by_cases hkey : key = []
  · subst hkey
    rw [if_pos rfl, NamingStyle.declarationName, NamingStyle.declarationName,
      NamingConvention.declarationName_inj]
    exact iff_of_false (NamingConvention.baseName_itemHint_succ_ne m) (by simp)
  · rw [if_neg hkey]
    exact iff_of_true rfl hkey

theorem Survey.declaration_mem_ofValue {style : NamingStyle} {rootName : Text} {value : Json}
    {owners : List Site} (survey : Survey style (rootObject rootName value)
      (Walk.last style rootName value).findings.shapes.declarations (fun _ => True) owners)
    {a : Site} (ha : a ∈ owners) {o : SampledObject}
    (ho : objectAt? (rootObject rootName value) a = some o) :
    o.declaration style ∈ (Schema.ofValue style rootName value).declarations := by
  obtain ⟨root, hroot⟩ := Option.isSome_iff_exists.mp
    (isSome_objectAt?_of_isPrefix List.nil_prefix (by rw [ho]; rfl))
  have hperm := Traversal.perm_emission (built_inferRoot style rootName value).nodup_names
  refine hperm.mem_iff.mpr ?_
  rw [inferRoot_of_some hroot]
  exact survey.mem_iff.mpr ⟨a, ha, o, ho, rfl⟩

/-- **An object within arrays is named after its key iff the key is not empty.** Where an object that
owns a declaration holds, under a key, so many arrays around an object, its declaration has a field of
so many lists that refers to a declaration of the schema. That one is named after the key with an `Item`
for every array but the first, so that one array or none make no difference; but if the key is empty,
it is named after an `Item` for every array, which is another name. -/
theorem named_after_key_iff (style : NamingStyle) (rootName : Text) (value : Json) :
    ∃ owners : List Site,
      (∀ owns, IsOwnership style (rootObject rootName value) owns ↔ ∀ a, owns a ↔ a ∈ owners) ∧
      ∀ a ∈ owners, ∀ o, objectAt? (rootObject rootName value) a = some o →
        ∃ d ∈ (Schema.ofValue style rootName value).declarations, d.name = o.name style ∧
          ∀ (i : Nat) (key : Text) (held : Json), o.members[i]? = some (key, held) →
          ∀ (n : Nat) (members : List (Text × Json)), held.Holds n members →
            ∃ (field : Field) (name : Text), d.fields[i]? = some field ∧ field.key = key ∧
              field.type = .nested n (.ref name) ∧
              name ∈ (Schema.ofValue style rootName value).names ∧
              name = style.declarationName (itemHint key (if key = [] then n else n - 1)) true ∧
              (1 ≤ n → (name = style.declarationName (itemHint key (n - 1)) true ↔ key ≠ [])) := by
  obtain ⟨owners, survey⟩ := exists_survey_last style rootName value
  have hconnected := connected_ofValue style rootName value
  refine ⟨owners, survey.isOwnership_iff (Walk.sound_last style rootName value).built.nodup_names,
    fun a ha o ho => ?_⟩
  have hd := survey.declaration_mem_ofValue ha ho
  refine ⟨o.declaration style, hd, o.name_declaration style, fun i key held hi n members hheld => ?_⟩
  obtain ⟨field, hfield, hkey, htype⟩ := SampledObject.exists_field style hi
  rw [hheld.sampledType_ofKey] at htype
  have hnamed : 1 ≤ n → _ := style.declarationName_item_eq_iff key
  generalize style.declarationName (itemHint key (if key = [] then n else n - 1)) true = name
    at htype hnamed ⊢
  -- What a field refers to is declared, whichever object owns the declaration.
  have hreferred : name ∈ (o.declaration style).dependencies :=
    (hconnected.filled _ hd).mem_dependencies_iff.mpr
      ⟨field, List.mem_of_getElem? hfield, by rw [htype, FieldType.reference?_nested]⟩
  have hdeclared := hconnected.closed (o.name style, name)
    (mem_edgesOf.mpr ⟨_, hd, o.name_declaration style, hreferred⟩)
  exact ⟨field, name, hfield, hkey, htype, hdeclared, rfl, hnamed⟩

/-- The first item of an array under the empty key is named after `Item`, and an object that stands
under that key itself is not. -/
theorem not_named_after_empty_key :
    (Schema.ofValue { convention := Target.typescript.convention } "Root"
        (.obj [([], .arr [.obj [("a", .int 1)]])])).names = ["IItem", "IRoot"] ∧
    (Schema.ofValue { convention := Target.typescript.convention } "Root"
        (.obj [([], .obj [("a", .int 1)])])).names = ["IField", "IRoot"] ∧
    NamingStyle.declarationName { convention := Target.typescript.convention } (itemHint [] 0) true =
      ("IField" : Text) := by
  decide

end SampleTypes
