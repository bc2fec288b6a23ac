import Mathlib.Algebra.Order.Field.Power
import Mathlib.Data.List.Induction
import Mathlib.Data.Rat.Cast.Order
import SampleTypes.Inference.Walk
import SampleTypes.Proofs.Inference.Site
import SampleTypes.Proofs.Shapes.Store

/-!
# What a sample says, without the walk

Which objects a sample holds, what each is called, what its declaration should be and what type each
value gives can be said of the sample alone, whatever was met before. This file says it:

* `SampledObject.of?` is the object by which a value is judged, if it is one, and `objectAt?` the
  one at a site;
* `Gives` is the relation between a value and the type of its field, one rule for each kind of
  value, and `sampledType` the function that computes it (`gives_sampledType`);
* `SampledObject.declaration` is the declaration an object gets if it gets one.

That the walk agrees with all of this is the subject of the files after this one.
-/

set_option autoImplicit false

namespace SampleTypes

/-! ## Sampled objects -/

/-- An object as it is sampled: what it holds, and the hint for its name. -/
structure SampledObject where
  /-- The members, in order. -/
  members : List (Text × Json)
  /-- What it is named after. -/
  hint : Text
  /-- Whether the hint is a key of the sample. -/
  fromKey : Bool

namespace SampledObject

/-- The object by which a value is judged: the value itself, or the first element of an array, and
of that again. -/
def of? : Json → Place → Bool → Option SampledObject
  | .arr (first :: _), place, fromKey => of? first place.item fromKey
  | .obj members, place, fromKey => some ⟨members, place.label, fromKey⟩
  | _, _, _ => none

/-- The name synthesized for an object. -/
def name (style : NamingStyle) (o : SampledObject) : Text :=
  style.declarationName o.hint o.fromKey

/-- The object by which the value of a member is judged. -/
def member? (o : SampledObject) (i : Nat) : Option SampledObject :=
  o.members[i]?.bind fun member => of? member.2 (.ofKey member.1) true

end SampledObject

/-- The sampled object at a site, if there is one; `root` is the one at the empty site. -/
def objectAt? (root : Option SampledObject) (a : Site) : Option SampledObject :=
  a.foldl (fun o i => o.bind (·.member? i)) root

theorem objectAt?_snoc (root : Option SampledObject) (a : Site) (i : Nat) :
    objectAt? root (a ++ [i]) = (objectAt? root a).bind (·.member? i) := by
  simp [objectAt?]

/-- An object stands in objects only. -/
theorem isSome_objectAt?_of_isPrefix {root : Option SampledObject} {a b : Site} (h : a <+: b)
    (hb : (objectAt? root b).isSome) : (objectAt? root a).isSome := by
  obtain ⟨c, rfl⟩ := h
  induction c using List.reverseRecOn with
  | nil => simpa using hb
  | append_singleton c i ih =>
    rw [← List.append_assoc, objectAt?_snoc] at hb
    refine ih ?_
    cases ho : objectAt? root (a ++ c) with
    | none => rw [ho] at hb; exact absurd hb (by simp)
    | some o => rfl

theorem objectAt?_eq_none_of_isPrefix {root : Option SampledObject} {a b : Site} (h : a <+: b)
    (ha : objectAt? root a = none) : objectAt? root b = none := by
  cases hb : objectAt? root b with
  | none => rfl
  | some o =>
    have hsome := isSome_objectAt?_of_isPrefix h (by rw [hb]; rfl)
    rw [ha] at hsome
    exact absurd hsome (by simp)

/-! ## The type that a value gives -/

/-- A float without a fractional part. -/
def IsWhole (x : Float) : Prop :=
  ∃ negative mantissa exponent, floatParts x = .finite negative mantissa exponent ∧
    ∃ n : Int, (n : Rat) = (mantissa : Rat) * (2 : Rat) ^ exponent

/-- The type that a value gives to its field; `fromKey` says whether it stands under a key. -/
inductive Gives (style : NamingStyle) (fromKey : Bool) : Json → Place → FieldType → Prop
  | null {place : Place} : Gives style fromKey .null place .any
  | bool {b : Bool} {place : Place} : Gives style fromKey (.bool b) place .boolean
  | str {s : Text} {place : Place} : Gives style fromKey (.str s) place .string
  | int {n : Int} {place : Place} : Gives style fromKey (.int n) place (.number true)
  | whole {x : Float} {place : Place} (h : IsWhole x) :
      Gives style fromKey (.float x) place (.number true)
  | fractional {x : Float} {place : Place} (h : ¬ IsWhole x) :
      Gives style fromKey (.float x) place (.number false)
  | empty {place : Place} : Gives style fromKey (.arr []) place (.list .any)
  | first {value : Json} {values : List Json} {place : Place} {type : FieldType}
      (h : Gives style fromKey value place.item type) :
      Gives style fromKey (.arr (value :: values)) place (.list type)
  | object {members : List (Text × Json)} {place : Place} :
      Gives style fromKey (.obj members) place (.ref (style.declarationName place.label fromKey))

/-- The type that a value gives, computed. -/
def sampledType (style : NamingStyle) (fromKey : Bool) : Json → Place → FieldType
  | .arr (first :: _), place => .list (sampledType style fromKey first place.item)
  | .obj _, place => .ref (style.declarationName place.label fromKey)
  | value, _ => scalarType value

/-- A mantissa over a power of two is an integer iff the power divides it. -/
theorem exists_int_eq_mul_zpow_neg_iff (mantissa k : Nat) :
    (∃ n : Int, (n : Rat) = (mantissa : Rat) * (2 : Rat) ^ (-(k : Int))) ↔
      mantissa % Nat.pow 2 k = 0 := by
  have hk : (2 : Rat) ^ k ≠ 0 := pow_ne_zero k two_ne_zero
  rw [zpow_neg, zpow_natCast]
  constructor
  · rintro ⟨n, hn⟩
    rw [eq_mul_inv_iff_mul_eq₀ hk] at hn
    have hn : (n * 2 ^ k : Int) = (mantissa : Int) := by exact_mod_cast hn
    have hdvd : (2 ^ k : Int) ∣ (mantissa : Int) := ⟨n, by rw [← hn, mul_comm]⟩
    exact Nat.mod_eq_zero_of_dvd (by exact_mod_cast hdvd)
  · intro h
    obtain ⟨q, hq⟩ := Nat.dvd_of_mod_eq_zero h
    have hq : mantissa = 2 ^ k * q := hq
    refine ⟨q, ?_⟩
    rw [eq_mul_inv_iff_mul_eq₀ hk, hq]
    push_cast
    rw [mul_comm]

theorem isWhole_iff (x : Float) : IsWhole x ↔ (integerOf? x).isSome = true := by
  rw [IsWhole, integerOf?]
  cases hx : floatParts x with
  | nan => simp
  | infinite negative => simp
  | finite negative mantissa exponent =>
    have hparts : (∃ negative' mantissa' exponent', FloatParts.finite negative mantissa exponent =
        .finite negative' mantissa' exponent' ∧
          ∃ n : Int, (n : Rat) = (mantissa' : Rat) * (2 : Rat) ^ exponent') ↔
        ∃ n : Int, (n : Rat) = (mantissa : Rat) * (2 : Rat) ^ exponent := by
      constructor
      · rintro ⟨_, _, _, heq, hn⟩
        obtain ⟨rfl, rfl, rfl⟩ := FloatParts.finite.inj heq
        exact hn
      · exact fun hn => ⟨_, _, _, rfl, hn⟩
    rw [hparts]
    dsimp only
    -- With a positive exponent the float is an integer whatever its mantissa is.
    by_cases he : 0 ≤ exponent
    · rw [if_pos he]
      refine iff_of_true ⟨(mantissa * 2 ^ exponent.toNat : Nat), ?_⟩ rfl
      conv_rhs => rw [← Int.toNat_of_nonneg he]
      push_cast
      rw [zpow_natCast]
    · rw [if_neg he]
      obtain ⟨k, rfl⟩ : ∃ k : Nat, exponent = -(k : Int) := ⟨(-exponent).toNat, by omega⟩
      rw [exists_int_eq_mul_zpow_neg_iff, neg_neg, Int.toNat_natCast]
      split
      · rename_i hz
        exact iff_of_true hz rfl
      · rename_i hz
        exact iff_of_false hz (by simp)

theorem gives_sampledType (style : NamingStyle) (fromKey : Bool) : ∀ (value : Json) (place : Place),
    Gives style fromKey value place (sampledType style fromKey value place)
  | .null, _ => .null
  | .bool _, _ => .bool
  | .str _, _ => .str
  | .int _, _ => .int
  | .float x, _ => by
    rw [sampledType, scalarType]
    · cases hx : (integerOf? x).isSome with
      | true => exact .whole ((isWhole_iff x).mpr hx)
      | false => exact .fractional fun h => by simp [(isWhole_iff x).mp h] at hx
    all_goals simp
  | .arr [], _ => .empty
  | .arr (first :: _), place => .first (gives_sampledType style fromKey first place.item)
  | .obj _, _ => .object

/-- The name at which the type of a value points is the one of the object it is judged by. -/
theorem reference?_sampledType (style : NamingStyle) (fromKey : Bool) :
    ∀ (value : Json) (place : Place), (sampledType style fromKey value place).reference? =
      (SampledObject.of? value place fromKey).map (·.name style)
  | .arr (first :: _), place => reference?_sampledType style fromKey first place.item
  | .null, _ | .bool _, _ | .str _, _ | .int _, _ | .float _, _ | .arr [], _ | .obj _, _ => rfl

/-! ## The declaration of an object -/

/-- The fields of members: one for each, in order, each with a name of its own. -/
def memberFields (style : NamingStyle) : FieldScope → List (Text × Json) → List Field
  | _, [] => []
  | scope, (key, value) :: members =>
    ⟨(scope.assign key).1, key, sampledType style true value (.ofKey key)⟩ ::
      memberFields style (scope.assign key).2 members

/-- The scope in which the names of the members' fields are taken. -/
def scopeAfter (scope : FieldScope) (members : List (Text × Json)) : FieldScope :=
  members.foldl (fun scope member => (scope.assign member.1).2) scope

/-- A field keeps the key of its member, and its type is given by the member's value. -/
theorem forall₂_memberFields (style : NamingStyle) (scope : FieldScope)
    (members : List (Text × Json)) :
    List.Forall₂ (fun member field => field.key = member.1 ∧
        Gives style true member.2 (.ofKey member.1) field.type)
      members (memberFields style scope members) := by
  induction members generalizing scope with
  | nil => exact .nil
  | cons member members ih =>
    exact .cons ⟨rfl, gives_sampledType style true member.2 (.ofKey member.1)⟩ (ih _)

/-- The name of the object by which the value of a member is judged. -/
def memberName? (style : NamingStyle) (member : Text × Json) : Option Text :=
  (SampledObject.of? member.2 (.ofKey member.1) true).map (·.name style)

theorem references_memberFields (style : NamingStyle) (scope : FieldScope)
    (members : List (Text × Json)) :
    (memberFields style scope members).map (·.type.reference?) =
      members.map (memberName? style) := by
  induction members generalizing scope with
  | nil => rfl
  | cons member members ih =>
    rw [memberFields, List.map_cons, List.map_cons, ih]
    exact congrArg (· :: _) (reference?_sampledType style true member.2 (.ofKey member.1))

namespace SampledObject

/-- The declaration of an object, with a field for each member. -/
def declaration (style : NamingStyle) (o : SampledObject) : Declaration :=
  (memberFields style style.fieldScope o.members).foldl Declaration.addField
    { name := o.name style }

theorem name_declaration (style : NamingStyle) (o : SampledObject) :
    (o.declaration style).name = o.name style := Declaration.name_addFields _ _

theorem fields_declaration (style : NamingStyle) (o : SampledObject) :
    (o.declaration style).fields = memberFields style style.fieldScope o.members :=
  (Declaration.fields_addFields _ _).trans (List.nil_append _)

theorem filled_declaration (style : NamingStyle) (o : SampledObject) :
    (o.declaration style).Filled := (Declaration.Filled.empty _).addFields _

end SampledObject

end SampleTypes
