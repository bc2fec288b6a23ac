import SampleTypes.Json.Reader
import SampleTypes.Text.Blank
import SampleTypes.Text.Digit
/-!
# Integers as users write them

An integer is written with decimal digits of any script, perhaps with a sign before them and white space
around; the information separators do not count as white space here. Between two digits one underscore may
stand. It may have no more digits than one in JSON.
-/

set_option autoImplicit false

namespace SampleTypes

/-- Reads digits with single underscores between them. `afterDigit` says that a digit came last, and
`value` and `count` are those of the digits so far. -/
def readDigits (afterDigit : Bool) (value count : Nat) : Text → Option (Nat × Nat)
  | [] => if afterDigit then some (value, count) else none
  | .scalar '_' :: t => if afterDigit then readDigits false value count t else none
  | .scalar c :: t =>
    match decimalValue? c with
    | some digit => readDigits true (10 * value + digit) (count + 1) t
    | none => none
  | .surrogate _ :: _ => none

/-- The natural number that a text writes, if it has no more digits than may be read. -/
def natural? (t : Text) : Option Nat :=
  match readDigits false 0 0 t with
  | some (value, count) => if count ≤ Json.integerDigitLimit then some value else none
  | none => none

/-- Whether a code point may stand around an integer: white space that is no information separator. -/
def isPadding (c : CodePoint) : Bool := c.isBlank && !(0x1C ≤ c.value && c.value ≤ 0x1F)

/-- A text without what may stand around an integer. -/
def dropPadding (t : Text) : Text :=
  ((t.dropWhile isPadding).reverse.dropWhile isPadding).reverse

def integer? (t : Text) : Option Int :=
  match dropPadding t with
  | .scalar '-' :: t => (natural? t).map fun n => -(n : Int)
  | .scalar '+' :: t => (natural? t).map Int.ofNat
  | t => (natural? t).map Int.ofNat

end SampleTypes
