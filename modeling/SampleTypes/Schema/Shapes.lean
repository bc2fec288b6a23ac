import SampleTypes.Schema.Declaration
/-!
# Shapes — the store of declarations

The declarations of one run, in the order in which their names first arrived. A name is stored at
most once: storing a declaration under a name that is taken changes nothing.
-/

set_option autoImplicit false

namespace SampleTypes

/-- A store of declarations by name, in the order of arrival. -/
structure Shapes where
  /-- The declarations, the first to arrive first. -/
  declarations : List Declaration := []
deriving DecidableEq, Repr, Inhabited

namespace Shapes

/-- The store without declarations. -/
def empty : Shapes := {}

/-- The names, in order. -/
def names (shapes : Shapes) : List Text := shapes.declarations.map (·.name)

def find? (shapes : Shapes) (name : Text) : Option Declaration :=
  shapes.declarations.find? fun d => d.name == name

/-- Whether the name is taken. -/
def contains (shapes : Shapes) (name : Text) : Bool := shapes.declarations.any (·.name == name)

/-- Stores a declaration at the end, unless its name is taken. -/
def insertIfNew (shapes : Shapes) (d : Declaration) : Shapes :=
  if shapes.contains d.name then shapes else ⟨shapes.declarations ++ [d]⟩

/-- Adds a field to the declaration of that name; without one nothing changes. -/
def addField (shapes : Shapes) (name : Text) (field : Field) : Shapes where
  declarations := shapes.declarations.map fun d => if d.name = name then d.addField field else d

/-- The number of declarations. -/
def size (shapes : Shapes) : Nat := shapes.declarations.length

end Shapes

end SampleTypes
