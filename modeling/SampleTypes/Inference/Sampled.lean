import SampleTypes.Json.Basic
import SampleTypes.Number.Binary
import SampleTypes.Schema.FieldType
/-!
# Sampled values — what an array is judged by, and what it is called

Of an array only the first element is sampled, and of that again, until a value is reached that is no
array with elements. On the way the *place* of the value changes: an array under a key lends the key
to its elements, and each further level appends `Item` to the hint.
-/

set_option autoImplicit false

namespace SampleTypes

/-- Where a value was met: the hint for its name, and the key that holds it, if a key still does. An
empty key holds nothing. -/
structure Place where
  /-- What the value is called if no key calls it anything. -/
  hint : Text
  /-- The key under which the value stands. -/
  key : Option Text := none
deriving DecidableEq, Repr

namespace Place

def ofKey (key : Text) : Place := ⟨key, some key⟩

/-- What a value at this place is named after. -/
def label (place : Place) : Text :=
  match place.key with
  | some (c :: key) => c :: key
  | _ => place.hint

/-- The place of the elements of an array at this place. -/
def item (place : Place) : Place :=
  match place.key with
  -- The key names the elements as it is; only the levels below them append to it.
  | some (c :: key) => ⟨c :: key, none⟩
  | _ => ⟨place.hint ++ ("Item" : Text), none⟩

end Place

/-- A value below `depth` arrays, with its place. -/
structure Sampled where
  /-- The number of arrays around the value. -/
  depth : Nat
  /-- The value: no array with elements. -/
  value : Json
  place : Place

/-- The value by which a value is judged: the first element of an array, and of that again. -/
def Sampled.of : Json → Place → Sampled
  | .arr (first :: _), place =>
    let sampled := Sampled.of first place.item
    { sampled with depth := sampled.depth + 1 }
  | value, place => ⟨0, value, place⟩

/-- The type of a value that is neither an object nor an array with elements. A float that is an
integer counts as one. -/
def scalarType : Json → FieldType
  | .bool _ => .boolean
  | .int _ => .number true
  | .float x => .number (integerOf? x).isSome
  | .str _ => .string
  | .arr _ => .list .any
  | .null | .obj _ => .any

end SampleTypes
