import Mathlib.Data.List.DropRight
import Mathlib.Data.List.Induction
import SampleTypes.Proofs.Shapes.Store

/-!
# What calls make of a store

A store is only ever changed by three calls: a declaration is put in, a field is added to one that is in
it, and everything is taken out. What it then holds can be said of the calls alone
(`StoreCall.performAll_eq`):

> **the names are those that were put in since the store was last emptied, each at its first time**, and
> the declaration of a name has the fields that it came with then and those that it was given since.

A declaration keeps a list of what its fields refer to, and that list is grown with each field. That it
is what the fields say comes with it (`StoreCall.performAll_bookkeeping`).
-/

set_option autoImplicit false

namespace SampleTypes

/-- A call that changes a store. -/
inductive StoreCall where
  /-- Puts in a declaration, which was given fields already or was not. -/
  | add (name : Text) (fields : List Field)
  /-- Adds a field to the declaration of that name. -/
  | addField (name : Text) (field : Field)
  /-- Takes everything out. -/
  | clear
deriving DecidableEq, Repr

namespace StoreCall

/-- A declaration that was given fields, one after another. -/
def declared (name : Text) (fields : List Field) : Declaration :=
  fields.foldl Declaration.addField { name }

theorem name_declared (name : Text) (fields : List Field) : (declared name fields).name = name :=
  Declaration.name_addFields _ fields

theorem fields_declared (name : Text) (fields : List Field) :
    (declared name fields).fields = fields := Declaration.fields_addFields _ fields

theorem filled_declared (name : Text) (fields : List Field) : (declared name fields).Filled :=
  (Declaration.Filled.empty name).addFields fields

theorem declared_snoc (name : Text) (fields : List Field) (field : Field) :
    declared name (fields ++ [field]) = (declared name fields).addField field := List.foldl_concat ..

/-- The store after a call. -/
def perform (shapes : Shapes) : StoreCall → Shapes
  | add name fields => shapes.insertIfNew (declared name fields)
  | addField name field => shapes.addField name field
  | clear => .empty

/-- The store after calls on an empty one. -/
def performAll (calls : List StoreCall) : Shapes := calls.foldl perform .empty

theorem performAll_snoc (calls : List StoreCall) (call : StoreCall) :
    performAll (calls ++ [call]) = perform (performAll calls) call := List.foldl_concat ..

/-- What a call that puts in a declaration gives back: the declaration that has the name after it. -/
def stored? (shapes : Shapes) (name : Text) (fields : List Field) : Option Declaration :=
  (perform shapes (add name fields)).find? name

/-! ## What the calls say -/

/-- The calls after the last one that empties the store. -/
def sinceClear (calls : List StoreCall) : List StoreCall := calls.rtakeWhile (· != clear)

/-- The name under which a call puts in a declaration. -/
def added? : StoreCall → Option Text
  | add name _ => some name
  | _ => none

/-- The names under which declarations were put in, each at its first time. -/
def addedNames (calls : List StoreCall) : List Text := (calls.filterMap added?).eraseDups

/-- The fields that a call adds to the declaration of a name. -/
def fieldsTo (name : Text) : StoreCall → List Field
  | addField other field => if other = name then [field] else []
  | add .. | clear => []

/-- The fields of the declaration of a name: those with which it first came, and those that it was
given after that. -/
def fieldsOf (name : Text) : List StoreCall → List Field
  | [] => []
  | add other fields :: calls =>
    if other = name then fields ++ calls.flatMap (fieldsTo name) else fieldsOf name calls
  | _ :: calls => fieldsOf name calls

theorem sinceClear_snoc_clear (calls : List StoreCall) : sinceClear (calls ++ [clear]) = [] :=
  List.rtakeWhile_concat_neg _ _ _ (by simp)

theorem sinceClear_snoc {call : StoreCall} (calls : List StoreCall) (h : call ≠ clear) :
    sinceClear (calls ++ [call]) = sinceClear calls ++ [call] :=
  List.rtakeWhile_concat_pos _ _ _ (by simpa using h)

theorem mem_addedNames {calls : List StoreCall} {name : Text} :
    name ∈ addedNames calls ↔ ∃ call ∈ calls, added? call = some name := by
  rw [addedNames, List.mem_eraseDups, List.mem_filterMap]

/-- Where the name is taken, a call adds to the fields what it adds to them. -/
theorem fieldsOf_snoc_of_mem {calls : List StoreCall} {name : Text} (h : name ∈ addedNames calls)
    (call : StoreCall) : fieldsOf name (calls ++ [call]) = fieldsOf name calls ++ fieldsTo name call := by
  induction calls with
  | nil => simp [addedNames] at h
  | cons first calls ih =>
    have hlater : added? first ≠ some name → name ∈ addedNames calls := by
      intro hne
      obtain ⟨c, hc, hadded⟩ := mem_addedNames.mp h
      rcases List.mem_cons.mp hc with rfl | hc
      · exact absurd hadded hne
      · exact mem_addedNames.mpr ⟨c, hc, hadded⟩
    cases first with
    | add other fields =>
      by_cases hother : other = name
      · simp [fieldsOf, hother]
      · rw [List.cons_append, fieldsOf, fieldsOf, if_neg hother, if_neg hother,
          ih (hlater (by simpa [added?] using hother))]
    | addField other field => exact ih (hlater (by simp [added?]))
    | clear => exact ih (hlater (by simp [added?]))

/-- Where the name is free, a declaration comes with its own fields. -/
theorem fieldsOf_snoc_of_notMem {calls : List StoreCall} {name : Text}
    (h : name ∉ addedNames calls) (fields : List Field) :
    fieldsOf name (calls ++ [add name fields]) = fields := by
  induction calls with
  | nil => simp [fieldsOf]
  | cons first calls ih =>
    have hlater : name ∉ addedNames calls := fun hmem => h (by
      obtain ⟨c, hc, hadded⟩ := mem_addedNames.mp hmem
      exact mem_addedNames.mpr ⟨c, List.mem_cons_of_mem _ hc, hadded⟩)
    cases first with
    | add other fields' =>
      have hother : other ≠ name := fun he =>
        h (mem_addedNames.mpr ⟨_, List.mem_cons_self, congrArg some he⟩)
      rw [List.cons_append, fieldsOf, if_neg hother, ih hlater]
    | addField other field => exact ih hlater
    | clear => exact ih hlater

/-! ## What the store holds -/

/-- The store that calls should make, none of which empties it. -/
def recorded (calls : List StoreCall) : Shapes :=
  ⟨(addedNames calls).map fun name => declared name (fieldsOf name calls)⟩

theorem names_recorded (calls : List StoreCall) : (recorded calls).names = addedNames calls := by
  rw [Shapes.names, recorded, List.map_map]
  exact List.map_id'' (fun name => name_declared name _) _

/-- Nothing is put in under a name that is taken, and under a free one at the end. -/
theorem recorded_snoc_add (calls : List StoreCall) (name : Text) (fields : List Field) :
    recorded (calls ++ [add name fields]) =
      (recorded calls).insertIfNew (declared name fields) := by
  have hkept : ∀ other ∈ addedNames calls,
      declared other (fieldsOf other (calls ++ [add name fields])) =
        declared other (fieldsOf other calls) := by
    intro other hother
    rw [fieldsOf_snoc_of_mem hother, fieldsTo, List.append_nil]
  have hadded : (calls ++ [add name fields]).filterMap added? = calls.filterMap added? ++ [name] := by
    rw [List.filterMap_append]
    rfl
  by_cases htaken : name ∈ addedNames calls
  · have hmem : (declared name fields).name ∈ (recorded calls).names := by
      rwa [name_declared, names_recorded]
    have hsame : addedNames (calls ++ [add name fields]) = addedNames calls := by
      rw [addedNames, hadded]
      exact eraseDups_snoc_of_mem (List.mem_eraseDups.mp htaken)
    rw [Shapes.insertIfNew_of_taken hmem, recorded, recorded, hsame, List.map_congr_left hkept]
  · have hnotMem : (declared name fields).name ∉ (recorded calls).names := by
      rwa [name_declared, names_recorded]
    have hmore : addedNames (calls ++ [add name fields]) = addedNames calls ++ [name] := by
      rw [addedNames, hadded]
      exact eraseDups_snoc_of_notMem fun h => htaken (List.mem_eraseDups.mpr h)
    have hdeclarations : (recorded (calls ++ [add name fields])).declarations =
        (recorded calls).declarations ++ [declared name fields] := by
      rw [recorded, hmore, List.map_append, List.map_congr_left hkept, List.map_singleton,
        fieldsOf_snoc_of_notMem htaken]
      rfl
    exact congrArg Shapes.mk (hdeclarations.trans (Shapes.insertIfNew_of_free hnotMem).symm)

/-- A field is added to the declaration of its name, if there is one. -/
theorem recorded_snoc_addField (calls : List StoreCall) (name : Text) (field : Field) :
    recorded (calls ++ [addField name field]) = (recorded calls).addField name field := by
  have hnames : addedNames (calls ++ [addField name field]) = addedNames calls := by
    rw [addedNames, List.filterMap_append]
    exact congrArg List.eraseDups (List.append_nil _)
  refine congrArg Shapes.mk ?_
  rw [hnames, recorded, List.map_map]
  refine List.map_congr_left fun other hother => ?_
  rw [fieldsOf_snoc_of_mem hother, Function.comp, name_declared]
  by_cases hsame : other = name
  · rw [if_pos hsame, fieldsTo, if_pos hsame.symm, declared_snoc]
  · rw [if_neg hsame, fieldsTo, if_neg (Ne.symm hsame), List.append_nil]

/-- **A store holds what was put into it since it was last emptied.** -/
theorem performAll_eq (calls : List StoreCall) : performAll calls = recorded (sinceClear calls) := by
  induction calls using List.reverseRecOn with
  | nil => rfl
  | append_singleton calls call ih =>
    rw [performAll_snoc, ih]
    cases call with
    | add name fields => rw [sinceClear_snoc _ (by simp), recorded_snoc_add, perform]
    | addField name field => rw [sinceClear_snoc _ (by simp), recorded_snoc_addField, perform]
    | clear =>
      rw [sinceClear_snoc_clear]
      rfl

theorem built_performAll (calls : List StoreCall) : (performAll calls).Built := by
  induction calls using List.reverseRecOn with
  | nil => exact .empty
  | append_singleton calls call ih =>
    rw [performAll_snoc]
    cases call with
    | add name fields => exact ih.insert (filled_declared name fields)
    | addField name field => exact ih.addField name field
    | clear => exact .empty

/-- To put in a declaration under a name that is taken changes nothing, and gives back the one that is
there. -/
theorem add_of_taken {shapes : Shapes} {name : Text} (h : name ∈ shapes.names) (fields : List Field) :
    perform shapes (add name fields) = shapes ∧
      stored? shapes name fields = shapes.find? name := by
  have hsame : perform shapes (add name fields) = shapes :=
    Shapes.insertIfNew_of_taken (by rwa [name_declared])
  exact ⟨hsame, by rw [stored?, hsame]⟩

/-- Under a free name it is put in at the end, and given back. -/
theorem add_of_free {shapes : Shapes} {name : Text} (h : name ∉ shapes.names) (fields : List Field) :
    (perform shapes (add name fields)).declarations =
        shapes.declarations ++ [declared name fields] ∧
      stored? shapes name fields = some (declared name fields) := by
  have hfree : (declared name fields).name ∉ shapes.names := by rwa [name_declared]
  refine ⟨Shapes.insertIfNew_of_free hfree, ?_⟩
  have hfound := Shapes.find?_insertIfNew_self hfree
  rwa [name_declared] at hfound

/-- **The books of a store are in order after any calls.** Its names are distinct, and they are those
under which declarations were put in since it was last emptied, each at its first time. To put in a
declaration under a name that is taken changes nothing and gives back the one that has it; under a free
name it comes to the end. And each declaration has the fields with which it first came and those that it
was given since, and depends on exactly the names to which they refer, through any number of lists, each
once and in the order of the first references. -/
theorem performAll_bookkeeping (calls : List StoreCall) :
    (performAll calls).names.Nodup ∧
    (performAll calls).names = ((sinceClear calls).filterMap added?).eraseDups ∧
    (∀ name fields, name ∈ (performAll calls).names →
      perform (performAll calls) (add name fields) = performAll calls ∧
      ∃ d ∈ (performAll calls).declarations, d.name = name ∧
        stored? (performAll calls) name fields = some d) ∧
    (∀ name fields, name ∉ (performAll calls).names →
      (perform (performAll calls) (add name fields)).declarations =
        (performAll calls).declarations ++ [declared name fields] ∧
      stored? (performAll calls) name fields = some (declared name fields)) ∧
    ∀ d ∈ (performAll calls).declarations,
      d.fields = fieldsOf d.name (sinceClear calls) ∧
      d.dependencies.Nodup ∧
      d.dependencies = (d.fields.filterMap (·.type.reference?)).eraseDups ∧
      ∀ name, name ∈ d.dependencies ↔
        ∃ field ∈ d.fields, ∃ depth, field.type = .nested depth (.ref name) := by
  have hbuilt := built_performAll calls
  refine ⟨hbuilt.nodup_names, ?_, fun name fields htaken => ?_, fun name fields hfree =>
    add_of_free hfree fields, fun d hd => ?_⟩
  · rw [performAll_eq, names_recorded, addedNames]
  · obtain ⟨hsame, hstored⟩ := add_of_taken htaken fields
    obtain ⟨d, hd⟩ := Shapes.exists_find?_of_mem_names htaken
    obtain ⟨hmem, hname⟩ := Shapes.mem_of_find? hd
    exact ⟨hsame, d, hmem, hname, hstored.trans hd⟩
  · have hfilled := hbuilt.filled d hd
    refine ⟨?_, hfilled.nodup_dependencies, hfilled.dependencies_eq, fun name => ?_⟩
    · rw [performAll_eq] at hd
      obtain ⟨name, _, rfl⟩ := List.mem_map.mp hd
      rw [name_declared, fields_declared]
    · simp only [hfilled.mem_dependencies_iff, FieldType.reference?_eq_some_iff]

/-- A store that was emptied, and then given two fields that refer to one name. -/
def refilled : List StoreCall :=
  [add "Order" [⟨"id", "id", .number true⟩], clear, add "Cart" [⟨"first", "first", .ref "Item"⟩],
    addField "Cart" ⟨"lines", "lines", .list (.list (.ref "Item"))⟩, addField "Order" ⟨"x", "x", .any⟩]

theorem performAll_bookkeeping_refilled :
    ("Cart" : Text) ∈ (performAll refilled).names ∧ ("Order" : Text) ∉ (performAll refilled).names ∧
    perform (performAll refilled) (add "Cart" []) = performAll refilled ∧
    (perform (performAll refilled) (add "Order" [])).declarations =
      (performAll refilled).declarations ++ [declared "Order" []] ∧
    ∃ d ∈ (performAll refilled).declarations, d.name = ("Cart" : Text) ∧ d.fields.length = 2 ∧
      d.dependencies = (d.fields.filterMap (·.type.reference?)).eraseDups := by
  obtain ⟨-, -, htaken, hfree, hbooks⟩ := performAll_bookkeeping refilled
  have hthere : ("Cart" : Text) ∈ (performAll refilled).names := by decide
  have hnotThere : ("Order" : Text) ∉ (performAll refilled).names := by decide
  obtain ⟨hsame, d, hd, hname, hstored⟩ := htaken "Cart" [] hthere
  obtain ⟨hfields, -, hdependencies, -⟩ := hbooks d hd
  refine ⟨hthere, hnotThere, hsame, (hfree "Order" [] hnotThere).1, d, hd, hname, ?_, hdependencies⟩
  rw [hfields, hname]
  decide

end StoreCall

end SampleTypes
