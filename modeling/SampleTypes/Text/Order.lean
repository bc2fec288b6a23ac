import SampleTypes.Text.CodePoint
/-!
# The order of texts

Texts are sorted by code points: the first place at which two of them differ decides, and a text comes
before those that go on after it.
-/

set_option autoImplicit false

namespace SampleTypes.Text

/-- Whether the first text does not come after the second. -/
def le : Text → Text → Bool
  | [], _ => true
  | _ :: _, [] => false
  | a :: s, b :: t => if a.value = b.value then le s t else a.value < b.value

def sorted (ts : List Text) : List Text := ts.mergeSort le

end SampleTypes.Text
