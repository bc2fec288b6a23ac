import SampleTypes.Json.Reader
import SampleTypes.Text.Blank
/-!
# The sample

The text from which declarations are inferred: strict JSON, with something in it.
-/

set_option autoImplicit false

namespace SampleTypes

/-- Why there is nothing to infer from. -/
inductive SampleError where
  | blankRootName
  | blankText
  /-- The text is not JSON, or beyond what can be read. -/
  | unreadable (refusal : Json.Refusal Json.Position)
deriving DecidableEq, Repr

namespace SampleError

def refusalMessage : Json.Refusal Json.Position → Text
  | .malformed fault position =>
    (fault.message : Text) ++ (" (line " : Text) ++ (toString position.line : Text)
      ++ (", column " : Text) ++ (toString position.column : Text) ++ (")" : Text)
  | .constant name => (name : Text) ++ (" is not valid JSON" : Text)
  | .integerTooLong digits => Json.integerTooLongMessage digits
  | .nestedTooDeep _ => "nesting exceeds the parser limit"

def message : SampleError → Text
  | blankRootName => "Root name is empty"
  | blankText => "JSON text is empty"
  | unreadable refusal => ("Invalid JSON: " : Text) ++ refusalMessage refusal

end SampleError

def readSample (text : List Char) : Except SampleError Json :=
  if text.all isBlankChar then .error .blankText
  else
    match Json.read .strict text with
    | .ok value => .ok value
    | .error refusal => .error (.unreadable refusal)

end SampleTypes
