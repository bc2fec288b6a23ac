import SampleTypes.Text.CodePoint
/-!
# JSON values

A JSON value as a sample gives it. Integers and floats are kept apart, as the two are told apart by
their spelling (`2` and `2.0`), and the members of an object stand in the order of their keys' first
appearance.
-/

set_option autoImplicit false

namespace SampleTypes

/-- A JSON value. -/
inductive Json where
  /-- The value `null`. -/
  | null
  | bool (b : Bool)
  /-- A number written without fraction and exponent. -/
  | int (n : Int)
  /-- A number written with a fraction or an exponent. -/
  | float (x : Float)
  | str (s : Text)
  | arr (items : List Json)
  /-- An object: keys with their values, each key once, in the order of first appearance. -/
  | obj (members : List (Text × Json))
deriving Inhabited

namespace Json

def kindName : Json → Text
  | null => "NoneType"
  | bool _ => "bool"
  | int _ => "int"
  | float _ => "float"
  | str _ => "str"
  | arr _ => "list"
  | obj _ => "dict"

/-- Whether a value counts as true: all do but `null`, `false`, zero and what is empty. -/
def isTruthy : Json → Bool
  | null => false
  | bool b => b
  | int n => n != 0
  | float x => x != 0.0
  | str s => !s.isEmpty
  | arr items => !items.isEmpty
  | obj members => !members.isEmpty

/-- Sets the value of a key: in place if the key is there already, at the end otherwise. -/
def setMember (key : Text) (value : Json) : List (Text × Json) → List (Text × Json)
  | [] => [(key, value)]
  | (k, v) :: rest => if k = key then (k, value) :: rest else (k, v) :: setMember key value rest

/-- The value of a key among members. -/
def getMember? (key : Text) : List (Text × Json) → Option Json
  | [] => none
  | (k, v) :: rest => if k = key then some v else getMember? key rest

/-- Members from pairs in order of appearance: a key that comes again keeps its first place and takes
its last value. -/
def membersOf (pairs : List (Text × Json)) : List (Text × Json) :=
  pairs.foldl (fun members pair => setMember pair.1 pair.2 members) []

end Json

end SampleTypes
