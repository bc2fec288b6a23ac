import SampleTypes.Text.Hexadecimal
/-!
# String literals of the generated code

A key of the sample is written into an annotation as a string literal on one line. The quote, the
backslash and the control characters are escaped; every other code point stands for itself.
-/

set_option autoImplicit false

namespace SampleTypes

/-- What stands for a character inside a literal. -/
def literalChar (c : Char) : List Char :=
  match c with
  | '"' => ['\\', '"']
  | '\\' => ['\\', '\\']
  | '\n' => ['\\', 'n']
  | '\r' => ['\\', 'r']
  | '\t' => ['\\', 't']
  | '\x08' => ['\\', 'b']
  | '\x0c' => ['\\', 'f']
  | c => if c.toNat < 0x20 then '\\' :: 'u' :: hexadecimal 4 c.toNat else [c]

def CodePoint.literal : CodePoint → Text
  | .scalar c => Text.ofChars (literalChar c)
  | .surrogate half => [.surrogate half]

def Text.literal (t : Text) : Text := ("\"" : Text) ++ t.flatMap CodePoint.literal ++ ("\"" : Text)

end SampleTypes
