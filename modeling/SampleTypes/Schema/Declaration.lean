import SampleTypes.Schema.FieldType
/-!
# Declarations

A declaration is a named shape with its fields in order. Beside the fields it keeps its
*dependencies*, the names its fields refer to, each once and in the order of the first reference;
`Declaration.addField` is the only way in which either grows.
-/

set_option autoImplicit false

namespace SampleTypes

structure Field where
  /-- The name in the target language. -/
  name : Text
  key : Text
  type : FieldType
deriving DecidableEq, Repr

/-- A named shape. -/
structure Declaration where
  name : Text
  fields : List Field := []
  /-- The names that the fields refer to, each once, in the order of the first reference. -/
  dependencies : List Text := []
deriving DecidableEq, Repr

namespace Declaration

/-- A list of names with one more at its end, unless it is there already. -/
def noteDependency (dependencies : List Text) : Option Text → List Text
  | some name => if dependencies.contains name then dependencies else dependencies ++ [name]
  | none => dependencies

/-- The declaration with one more field at its end. -/
def addField (d : Declaration) (field : Field) : Declaration where
  name := d.name
  fields := d.fields ++ [field]
  dependencies := noteDependency d.dependencies field.type.reference?

def field? (d : Declaration) (name : Text) : Option Field :=
  d.fields.find? fun field => field.name == name

def usesLists (d : Declaration) : Bool := d.fields.any fun field => field.type.isList

end Declaration

end SampleTypes
