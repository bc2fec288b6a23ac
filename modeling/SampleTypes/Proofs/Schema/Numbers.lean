import Mathlib
import SampleTypes.Proofs.Inference.Outline
import SampleTypes.Proofs.Schema.ArrayItems
import SampleTypes.Proofs.Target.Reading

/-!
# What numbers become in a class

A class has two types of numbers, and the sampled number decides between them. Which number that is,
and which field it gives its type, is said of the sample (`Json.Within`, `TypesField`); which number a
value is exactly is said without rounding (`Json.number?`).

> **A field is a `Long` iff the sampled number is an integer**, and else it is a `Double`
> (`Target.typeText_long_iff`).

The size of the number plays no part, so a field may be a `Long` whose sample is none
(`Target.typeText_long_of_great`).
-/

set_option autoImplicit false

namespace SampleTypes

/-! ## Numbers in a sample -/

namespace Json

/-- A value stands within so many arrays, each the first element of the next. -/
inductive Within : Json → Nat → Json → Prop
  | here (value : Json) : Within value 0 value
  | first {value held : Json} {values : List Json} {n : Nat} (h : Within value n held) :
      Within (.arr (value :: values)) (n + 1) held

/-- The number that a value is, exactly; a float that is not finite is none. -/
def number? : Json → Option ℚ
  | int n => some n
  | float x => match floatParts x with
    | .finite negative mantissa exponent =>
      some ((if negative then -1 else 1) * mantissa * 2 ^ exponent)
    | _ => none
  | _ => none

/-- A value that is an integer, however it is written. -/
def IsInteger (value : Json) : Prop := ∃ k : ℤ, value.number? = some (k : ℚ)

theorem isInteger_float_iff (x : Float) : IsInteger (.float x) ↔ IsWhole x := by
  rw [IsInteger, IsWhole, number?]
  cases floatParts x with
  | nan => simp
  | infinite negative => simp
  | finite negative mantissa exponent =>
    -- The sign makes no difference to being an integer.
    have hsign : ∀ q : ℚ, (∃ k : ℤ, (if negative then -1 else 1) * q = k) ↔ ∃ k : ℤ, (k : ℚ) = q := by
      intro q
      cases negative with
      | false => simp [eq_comm]
      | true =>
        constructor
        · rintro ⟨k, hk⟩
          exact ⟨-k, by simp [← hk]⟩
        · rintro ⟨k, rfl⟩
          exact ⟨-k, by simp⟩
    simp only [Option.some.injEq, mul_assoc, hsign, FloatParts.finite.injEq]
    constructor
    · exact fun hk => ⟨negative, mantissa, exponent, ⟨rfl, rfl, rfl⟩, hk⟩
    · rintro ⟨_, _, _, ⟨rfl, rfl, rfl⟩, hk⟩
      exact hk

theorem IsNumber.isInteger_iff {value : Json} {whole : Prop} (h : value.IsNumber whole) :
    value.IsInteger ↔ whole := by
  cases h with
  | int n => exact iff_of_true ⟨n, rfl⟩ trivial
  | float x => exact isInteger_float_iff x

/-- A value gives its type within as many lists as there are arrays around it. -/
theorem Within.sampledType_eq {value held : Json} {n : Nat} (h : value.Within n held)
    (style : NamingStyle) (fromKey : Bool) (place : Place) :
    sampledType style fromKey value place =
      .nested n (sampledType style fromKey held (Place.item^[n] place)) := by
  induction h generalizing place with
  | here value => rfl
  | first _ ih =>
    rw [sampledType, ih, Function.iterate_succ_apply]
    rfl

/-- Only a number gives the type of one. -/
theorem exists_within_of_sampledType (style : NamingStyle) (fromKey : Bool) {integral : Bool} :
    ∀ (value : Json) (place : Place),
      (sampledType style fromKey value place).element = .number integral →
        ∃ n held whole, value.Within n held ∧ held.IsNumber whole
  | .int n, _, _ => ⟨0, _, _, .here _, .int n⟩
  | .float x, _, _ => ⟨0, _, _, .here _, .float x⟩
  | .arr (first :: _), place, h => by
    obtain ⟨n, held, whole, hwithin, hnumber⟩ :=
      exists_within_of_sampledType style fromKey first place.item h
    exact ⟨n + 1, held, whole, .first hwithin, hnumber⟩
  | .null, _, h | .bool _, _, h | .str _, _, h | .arr [], _, h | .obj _, _, h => by
    exact absurd h (by simp [sampledType, scalarType, FieldType.element])

end Json

/-! ## Which value gives a field its type -/

/-- The value of a sample that gives a field of its schema the type: the value of a member of an object
that owns a declaration, or the root, if it is wrapped. -/
inductive TypesField (style : NamingStyle) (rootName : Text) (root : Json) :
    Json → Declaration → Field → Prop
  | member {owns : Site → Prop} {a : Site} {o : SampledObject} {d : Declaration} {i : Nat}
      {key : Text} {held : Json} {field : Field}
      (ownership : IsOwnership style (rootObject rootName root) owns) (owner : owns a)
      (object : objectAt? (rootObject rootName root) a = some o)
      (declared : d ∈ (Schema.ofValue style rootName root).declarations)
      (named : d.name = o.name style) (value : o.members[i]? = some (key, held))
      (place : d.fields[i]? = some field) : TypesField style rootName root held d field
  | root {d : Declaration} {field : Field} (noObject : rootObject rootName root = none)
      (declared : d ∈ (Schema.ofValue style rootName root).declarations)
      (place : field ∈ d.fields) : TypesField style rootName root root d field

variable {style : NamingStyle} {rootName : Text} {root held : Json} {d : Declaration} {field : Field}

/-- The value does give the field its type. -/
theorem TypesField.exists_sampledType (h : TypesField style rootName root held d field) :
    ∃ fromKey place, field.type = sampledType style fromKey held place := by
  cases h with
  | @member owns a o _ i key _ _ ownership owner object declared named value place =>
    obtain ⟨owners, survey⟩ := exists_survey_last style rootName root
    have howner : a ∈ owners := ((survey.isOwnership_iff
      (Walk.sound_last style rootName root).built.nodup_names owns).mp ownership a).mp owner
    have hdistinct := (connected_ofValue style rootName root).distinct
    obtain rfl : d = o.declaration style := Shapes.eq_of_name_eq hdistinct declared
      (survey.declaration_mem_ofValue howner object) (named.trans (o.name_declaration style).symm)
    obtain ⟨field', hfield', -, htype⟩ := SampledObject.exists_field style value
    obtain rfl : field' = field := Option.some.inj (hfield'.symm.trans place)
    exact ⟨true, .ofKey key, htype⟩
  | root noObject declared place =>
    rcases exists_of_mem_ofValue declared with ⟨a, o, ho, -⟩ | ⟨-, rfl⟩
    · rw [noObject, objectAt?_eq_none_of_isPrefix List.nil_prefix rfl] at ho
      exact absurd ho (by simp)
    · exact ⟨false, ⟨rootName, none⟩, by rw [List.mem_singleton.mp place]; rfl⟩

/-- Every field of a schema was given its type by a value of the sample. -/
theorem exists_typesField (hd : d ∈ (Schema.ofValue style rootName root).declarations)
    (hfield : field ∈ d.fields) : ∃ held, TypesField style rootName root held d field := by
  cases hroot : rootObject rootName root with
  | none => exact ⟨root, .root hroot hd hfield⟩
  | some o =>
    obtain ⟨owners, survey⟩ := exists_survey_last style rootName root
    have hbuilt := built_inferRoot style rootName root
    have hstored := (Traversal.perm_emission hbuilt.nodup_names).mem_iff.mp hd
    rw [inferRoot_of_some hroot] at hstored
    obtain ⟨a, ha, owner, howner, rfl⟩ := survey.mem_iff.mp hstored
    obtain ⟨i, hi⟩ := List.mem_iff_getElem?.mp hfield
    have hlength : owner.members.length = (owner.declaration style).fields.length := by
      rw [owner.fields_declaration]
      exact (forall₂_memberFields style style.fieldScope owner.members).length_eq
    obtain ⟨⟨key, held⟩, hmember⟩ : ∃ member, owner.members[i]? = some member := by
      refine ⟨_, List.getElem?_eq_getElem ?_⟩
      rw [hlength]
      exact (List.getElem?_eq_some_iff.mp hi).1
    exact ⟨held, .member ((survey.isOwnership_iff
      (Walk.sound_last style rootName root).built.nodup_names _).mpr fun _ => Iff.rfl) ha howner hd
      (owner.name_declaration style) hmember hi⟩

/-- The value of a member of the root gives the field of its class the type. -/
theorem TypesField.of_rootObject {o : SampledObject} {i : Nat} {key : Text}
    (hroot : rootObject rootName root = some o)
    (hd : d ∈ (Schema.ofValue style rootName root).declarations) (hname : d.name = o.name style)
    (hmember : o.members[i]? = some (key, held)) (hfield : d.fields[i]? = some field) :
    TypesField style rootName root held d field := by
  obtain ⟨owners, survey⟩ := exists_survey_last style rootName root
  have hownership := (survey.isOwnership_iff
    (Walk.sound_last style rootName root).built.nodup_names (· ∈ owners)).mpr fun _ => Iff.rfl
  have hobject : objectAt? (rootObject rootName root) [] = some o := hroot
  refine .member hownership ((hownership []).mpr ⟨.root (by rw [hobject]; rfl), ?_⟩) hobject hd hname
    hmember hfield
  exact fun b hb => absurd hb (List.not_lt_nil b)

/-- In a class no reference is taken for a word. -/
theorem TypesField.isReference {suffix : Text}
    (h : TypesField { convention := Target.java.convention, suffix } rootName root held d field) :
    ∀ name, field.type.reference? = some name → Target.java.IsReference name := by
  have hd : d ∈ (Schema.ofValue { convention := Target.java.convention, suffix } rootName
      root).declarations ∧ field ∈ d.fields := by
    cases h with
    | member _ _ _ declared _ _ place => exact ⟨declared, List.mem_of_getElem? place⟩
    | root _ declared place => exact ⟨declared, place⟩
  exact (namedBy_ofValue _ rootName root d hd.1).isReadable.reference field hd.2

/-! ## How it is spelled -/

namespace FieldType

theorem element_element (type : FieldType) : type.element.element = type.element := by
  induction type with
  | list type ih => exact ih
  | string | number | boolean | any | ref => rfl

theorem element_ne_list (type element : FieldType) : type.element ≠ .list element := by
  induction type with
  | list type ih => exact ih
  | string | number | boolean | any | ref => simp [FieldType.element]

theorem element_nested (n : Nat) (type : FieldType) : (nested n type).element = type.element := by
  induction n with
  | zero => rfl
  | succ n ih => exact ih

theorem depth_nested (n : Nat) (type : FieldType) : (nested n type).depth = n + type.depth := by
  induction n with
  | zero => exact (Nat.zero_add _).symm
  | succ n ih => rw [nested, depth, ih, Nat.add_right_comm]

end FieldType

namespace Target

/-- A type that is a number's below its lists is spelled as one. -/
theorem element_eq_of_typeText {type : FieldType} {integral : Bool}
    (href : ∀ name, type.reference? = some name → java.IsReference name)
    (h : java.typeText type.element = java.typeText (.number integral)) :
    type.element = .number integral := by
  have helement : java.readElement (java.typeText type.element) = java.shownType type.element :=
    (readElement_typeText
      (fun name hname => href name (by rwa [FieldType.reference?, ← type.element_element]))
      type.element_ne_list).2
  have hnumber : java.readElement (java.typeText (.number integral)) =
      java.shownType (.number integral) :=
    (readElement_typeText (fun _ hname => by cases hname) (by simp)).2
  rw [shownType_java] at helement hnumber
  exact helement.symm.trans ((congrArg java.readElement h).trans hnumber)

/-- **A field of a class is a `Long` iff the sampled number is an integer**, whatever its size is and
however it is written, and a `Double` iff it is none. The number stands in the value that gives the field
its type within so many arrays as the field has lists. Every field has such a value, and if the field is
a `Long`, a number is in it. -/
theorem typeText_long_iff (suffix rootName : Text) (root : Json) :
    (∀ d ∈ (Schema.ofValue { convention := java.convention, suffix } rootName root).declarations,
      ∀ field ∈ d.fields, ∃ held,
        TypesField { convention := java.convention, suffix } rootName root held d field) ∧
    ∀ held d field, TypesField { convention := java.convention, suffix } rootName root held d field →
      (∀ n number whole, held.Within n number → number.IsNumber whole → field.type.depth = n ∧
        (java.typeText field.type.element = ("Long" : Text) ↔ number.IsInteger) ∧
        (java.typeText field.type.element = ("Double" : Text) ↔ ¬ number.IsInteger)) ∧
      (java.typeText field.type.element = ("Long" : Text) →
        ∃ n number whole, held.Within n number ∧ number.IsNumber whole) := by
  refine ⟨fun d hd field hfield => exists_typesField hd hfield, fun held d field h => ?_⟩
  obtain ⟨fromKey, place, htype⟩ := h.exists_sampledType
  refine ⟨fun n number whole hwithin hnumber => ?_, fun hlong => ?_⟩
  · obtain ⟨integral, hscalar, hwhole⟩ := hnumber.sampledType_eq
      { convention := java.convention, suffix } fromKey (Place.item^[n] place)
    rw [hwithin.sampledType_eq, hscalar] at htype
    rw [htype, FieldType.depth_nested, FieldType.element_nested, hnumber.isInteger_iff, ← hwhole]
    refine ⟨rfl, ?_⟩
    cases integral <;> decide
  · have hnumber : field.type.element = .number true :=
      element_eq_of_typeText h.isReference hlong
    exact Json.exists_within_of_sampledType _ fromKey held place (htype ▸ hnumber)

/-- An object with a list of lists. -/
def numbersSample : Json := .obj [("ids", .arr [.arr [.int 7]])]

theorem typeText_long_iff_numbers : ∃ d field,
    TypesField { convention := java.convention } "Root" numbersSample (.arr [.arr [.int 7]]) d field ∧
    Json.Within (.arr [.arr [.int 7]]) 2 (.int 7) ∧ Json.IsNumber (.int 7) True ∧
    field.type.depth = 2 ∧
    (java.typeText field.type.element = ("Long" : Text) ↔ Json.IsInteger (.int 7)) := by
  have hd : (⟨"RootDto", [⟨"ids", "ids", .list (.list (.number true))⟩], []⟩ : Declaration) ∈
      (Schema.ofValue { convention := java.convention } "Root" numbersSample).declarations := by
    decide
  have htypes : TypesField { convention := java.convention } "Root" numbersSample
      (.arr [.arr [.int 7]]) _ ⟨"ids", "ids", .list (.list (.number true))⟩ :=
    .of_rootObject (i := 0) rfl hd rfl rfl rfl
  have hwithin : Json.Within (.arr [.arr [.int 7]]) 2 (.int 7) := .first (.first (.here _))
  obtain ⟨hdepth, hlong, -⟩ :=
    ((typeText_long_iff [] "Root" numbersSample).2 _ _ _ htypes).1 2 _ _ hwithin (.int 7)
  exact ⟨_, _, htypes, hwithin, .int 7, hdepth, hlong⟩

/-- The integers that a `Long` can be. -/
def IsLong (k : ℤ) : Prop := -2 ^ 63 ≤ k ∧ k ≤ 2 ^ 63 - 1

/-- A field is a `Long` although the sampled number is too great to be one. -/
theorem typeText_long_of_great :
    readSample "\x7b\"id\":9223372036854775808\x7d".toList =
      .ok (.obj [("id", .int 9223372036854775808)]) ∧
    ∃ d field, TypesField { convention := java.convention } "Root"
        (.obj [("id", .int 9223372036854775808)]) (.int 9223372036854775808) d field ∧
      java.typeText field.type.element = ("Long" : Text) ∧
      ¬ ∃ k, IsLong k ∧ Json.number? (.int 9223372036854775808) = some (k : ℚ) := by
  have hd : (⟨"RootDto", [⟨"id", "id", .number true⟩], []⟩ : Declaration) ∈
      (Schema.ofValue { convention := java.convention } "Root"
        (.obj [("id", .int 9223372036854775808)])).declarations := by decide
  refine ⟨by cbv, _, ⟨"id", "id", .number true⟩, .of_rootObject (i := 0) rfl hd rfl rfl rfl, rfl, ?_⟩
  rintro ⟨k, ⟨-, hk⟩, hnumber⟩
  have hk' : (9223372036854775808 : ℤ) = k := by exact_mod_cast Option.some.inj hnumber
  omega

end Target

end SampleTypes
