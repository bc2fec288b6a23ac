import SampleTypes.Inference.Findings
/-!
# Inference by recursion on the value

The same inference as the walk with a stack, written as a recursion on the value: an object declares
itself, infers the value of each member in turn and appends the field, and is then filled. It is what
statements about inference are proved on.
-/

set_option autoImplicit false

namespace SampleTypes.Recursive

mutual

/-- Infers the type of a value and declares every object shape in it. -/
def inferAt (style : NamingStyle) (value : Json) (place : Place) (fromKey : Bool)
    (findings : Findings) : FieldType × Findings :=
  match value with
  | .arr (first :: _) =>
    let (type, findings) := inferAt style first place.item fromKey findings
    (.list type, findings)
  | .obj members =>
    let name := style.declarationName place.label fromKey
    if findings.shapes.contains name then (.ref name, findings.note (.reused name))
    else
      (.ref name,
        (inferMembers style name style.fieldScope members (findings.declare name)).noteFilled name)
  | scalar => (scalarType scalar, findings)

/-- Adds a field for each member to the declaration of that name. -/
def inferMembers (style : NamingStyle) (name : Text) (scope : FieldScope)
    (members : List (Text × Json)) (findings : Findings) : Findings :=
  match members with
  | [] => findings
  | (key, value) :: members =>
    let (fieldName, scope) := scope.assign key
    let (type, findings) := inferAt style value (.ofKey key) true findings
    inferMembers style name scope members (findings.addField name ⟨fieldName, key, type⟩)

end

end SampleTypes.Recursive
