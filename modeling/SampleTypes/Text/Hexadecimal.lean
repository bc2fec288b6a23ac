import SampleTypes.Text.CodePoint
/-!
# Hexadecimal numerals

Numbers in base sixteen with lower-case digits, filled up with zeros to a width, as escapes write
code points and as a float's bits are written down.
-/

set_option autoImplicit false

namespace SampleTypes

/-- The digits of a number in base sixteen, at least `width` of them. -/
def hexadecimal (width n : Nat) : List Char :=
  let digits := Nat.toDigits 16 n
  List.replicate (width - digits.length) '0' ++ digits

end SampleTypes
