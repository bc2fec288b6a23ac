import SampleTypes.Proofs.Json.Outcome
import SampleTypes.Proofs.Values

/-!
# The objects of a text

A text may write a key of an object more than once. What the reader makes of it holds each key once
(`Json.holdsKeysOnce_of_read`): only `Json.membersOf` puts members together, and it sets them one after
another.
-/

set_option autoImplicit false

namespace SampleTypes.Json

/-- Whether a value, if it is an object, holds each key once. -/
def HoldsKeysOnce : Json → Prop
  | obj members => (members.map (·.1)).Nodup
  | _ => True

theorem hereditary_holdsKeysOnce : Hereditary fun _ value => value.HoldsKeysOnce where
  null _ := trivial
  bool _ _ := trivial
  int _ _ _ _ _ := trivial
  float _ _ := trivial
  str _ _ := trivial
  arr _ := trivial
  obj _ := nodup_keys_foldl_setMember _ List.nodup_nil

theorem holdsKeysOnce_of_read {dialect : Dialect} {text : List Char} {value : Json}
    (h : read dialect text = .ok value) : value.HoldsKeysOnce :=
  hereditary_holdsKeysOnce.of_read h

end SampleTypes.Json
