import SampleTypes.Text.CodePoint
/-!
# Field types

What a sampled value says about the type of its field: a scalar kind, a reference to a declaration by
name, or a list of either. `any` is the type of a value that says nothing, `null` or an empty array.
-/

set_option autoImplicit false

namespace SampleTypes

inductive FieldType where
  | string
  /-- A number; `integral` says that the sampled one has no fractional part. -/
  | number (integral : Bool)
  | boolean
  /-- A type of which the sample says nothing. -/
  | any
  | ref (name : Text)
  | list (element : FieldType)
deriving DecidableEq, Repr, Inhabited

namespace FieldType

/-- What is left of a type below all its lists. -/
def element : FieldType → FieldType
  | list t => t.element
  | t => t

/-- The number of lists around the element. -/
def depth : FieldType → Nat
  | list t => t.depth + 1
  | _ => 0

/-- The type within `n` lists. -/
def nested : Nat → FieldType → FieldType
  | 0, t => t
  | n + 1, t => list (nested n t)

/-- The name of the declaration at which a type points, through any number of lists. -/
def reference? (t : FieldType) : Option Text :=
  match t.element with
  | ref name => some name
  | _ => none

def isList : FieldType → Bool
  | list _ => true
  | _ => false

end FieldType

end SampleTypes
