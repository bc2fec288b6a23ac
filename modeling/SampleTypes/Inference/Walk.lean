import SampleTypes.Inference.Findings
/-!
# The walk — inference with a stack of open objects

A sample may be nested deeper than a call stack should be, so inference keeps its own stack. A
`Frame` is an object whose declaration is stored and whose members are being walked; one `Walk.step`
takes one member of the innermost object, or closes it. A declaration is stored before its first
field is added, so that an object of the same name within refers to it.

Every step lessens `Walk.weight`, so `Walk.finish` reaches the end of the walk.
-/

set_option autoImplicit false

namespace SampleTypes

/-- An open object. -/
structure Frame where
  name : Text
  /-- The names of the fields so far. -/
  scope : FieldScope
  /-- The members that are still to be walked. -/
  members : List (Text × Json)

/-- The state of a walk. -/
structure Walk where
  findings : Findings
  /-- The open objects, the innermost first. -/
  frames : List Frame := []

mutual

/-- A number of steps that is enough to walk a value. -/
def Json.weight : Json → Nat
  | .obj members => Json.membersWeight members + 1
  | .arr items => Json.itemsWeight items
  | _ => 0

/-- A number of steps that is enough to walk the items of an array. -/
def Json.itemsWeight : List Json → Nat
  | [] => 0
  | item :: items => item.weight + Json.itemsWeight items

/-- A number of steps that is enough to walk the members of an object. -/
def Json.membersWeight : List (Text × Json) → Nat
  | [] => 0
  | (_, value) :: members => value.weight + Json.membersWeight members + 1

end

namespace Walk

/-- A number of steps that is enough to close all frames. -/
def weight (walk : Walk) : Nat :=
  walk.frames.foldr (fun frame rest => Json.membersWeight frame.members + 1 + rest) 0

/-- Gives the type of a value. An object whose name is free is declared and becomes the innermost open
object; nothing in it is looked at yet. -/
def meet (style : NamingStyle) (value : Json) (place : Place) (fromKey : Bool) (walk : Walk) :
    FieldType × Walk :=
  let sampled := Sampled.of value place
  match sampled.value with
  | .obj members =>
    let name := style.declarationName sampled.place.label fromKey
    let type := FieldType.nested sampled.depth (.ref name)
    if walk.findings.shapes.contains name then
      -- The declaration that has the name stands for this object too, whatever its members are.
      (type, { walk with findings := walk.findings.note (.reused name) })
    else
      (type, { findings := walk.findings.declare name,
               frames := ⟨name, style.fieldScope, members⟩ :: walk.frames })
  | scalar => (FieldType.nested sampled.depth (scalarType scalar), walk)

/-- Takes the next member of the innermost object, or closes the object after its last one. -/
def step (style : NamingStyle) (walk : Walk) : Walk :=
  match walk.frames with
  | [] => walk
  | ⟨name, _, []⟩ :: outer => { findings := walk.findings.noteFilled name, frames := outer }
  | ⟨name, scope, (key, value) :: members⟩ :: outer =>
    let (fieldName, scope) := scope.assign key
    let (type, walk) :=
      meet style value (.ofKey key) true { walk with frames := ⟨name, scope, members⟩ :: outer }
    -- The field joins its declaration before anything that its value has opened is walked.
    { walk with findings := walk.findings.addField name ⟨fieldName, key, type⟩ }

/-- Steps until no object is open, at most `steps` times. -/
def run (style : NamingStyle) : Nat → Walk → Walk
  | 0, walk => walk
  | steps + 1, walk => if walk.frames.isEmpty then walk else run style steps (step style walk)

/-- Walks all open objects to their ends. -/
def finish (style : NamingStyle) (walk : Walk) : Findings := (run style walk.weight walk).findings

end Walk

/-- Infers the type of a value and declares every object shape in it. `fromKey` says whether the place
is that of a key. -/
def inferAt (style : NamingStyle) (value : Json) (place : Place) (fromKey : Bool)
    (findings : Findings) : FieldType × Findings :=
  let (type, walk) := Walk.meet style value place fromKey { findings }
  (type, walk.finish style)

/-- Infers the type of a value met under a hint, and under a key if there is one. -/
def infer (style : NamingStyle) (value : Json) (hint : Text) (key : Option Text)
    (findings : Findings) : FieldType × Findings :=
  inferAt style value ⟨hint, key⟩ key.isSome findings

/-- Infers the root of a sample and gives the name of its declaration. A root that is neither an object
nor an array of objects is wrapped: it becomes the field `value` of a declaration of its own. -/
def inferRoot (style : NamingStyle) (value : Json) (rootName : Text) (findings : Findings) :
    Text × Findings :=
  let (type, findings) := infer style value rootName none findings
  match type.reference? with
  | some name => (name, findings)
  | none =>
    -- No object was sampled, so in a run of its own nothing can have taken the name.
    let name := style.declarationName rootName false
    let field : Field := ⟨(style.fieldScope.assign ("value" : Text)).1, ("value" : Text), type⟩
    (name, ((findings.declare name).addField name field).note (.wrapped name))

end SampleTypes
