import SampleTypes.Naming.Words
/-!
# Field scopes — names that are unique within one declaration

The fields of a declaration are named after their keys, in camel case. Different keys may ask for one
name, and a key may ask for a reserved word; a `FieldScope` remembers the names given so far and
gives each field a name of its own. A reserved word gets the suffix `_`; a name that is taken gets
the suffix and the least number from one on that makes it free. Among one number more than there are
names taken, one is free.
-/

set_option autoImplicit false

namespace SampleTypes

/-- The names that a declaration's fields have taken, and those that none may take. -/
structure FieldScope where
  reserved : List Text := []
  /-- The names given so far, the last one first. -/
  taken : List Text := []

namespace FieldScope

/-- The identifier that a key asks for: the key in camel case, guarded against a digit at its start,
or `field` for a key without words. -/
def identifier (key : Text) : Text :=
  if key.camelCase.isEmpty then ("field" : Text) else key.camelCase.guardDigit

def numbered (name suffix : Text) (n : Nat) : Text := name ++ suffix ++ (toString n : Text)

/-- The name itself if it is free, otherwise its first numbered form that is. -/
def free (taken : List Text) (name suffix : Text) : Text :=
  if taken.contains name then
    match (List.range' 1 (taken.length + 1)).find? fun n =>
        !taken.contains (numbered name suffix n) with
    | some n => numbered name suffix n
    -- Not reached: the names taken are fewer than these numbered forms.
    | none => numbered name suffix (taken.length + 1)
  else name

/-- The name of the next field, and the scope in which it is taken. -/
def assign (scope : FieldScope) (key : Text) (suffix : Text := "_") : Text × FieldScope :=
  let wanted := identifier key
  -- Reserved words are looked at once; a numbered form is not held against them again.
  let allowed := if scope.reserved.contains wanted then wanted ++ suffix else wanted
  let name := free scope.taken allowed suffix
  (name, { scope with taken := name :: scope.taken })

end FieldScope

end SampleTypes
