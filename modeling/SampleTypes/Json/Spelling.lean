import SampleTypes.Json.Basic
import SampleTypes.Number.Shortest
import SampleTypes.Text.Hexadecimal
import SampleTypes.Text.Printable
/-!
# How messages spell JSON values

A message that quotes a setting, and a template that puts out a value which is no string, spell it in
one way: `None`, `True` and `False`, floats by their shortest decimal, strings between single quotes
with everything unprintable escaped, arrays and objects with `, ` between their parts.
-/

set_option autoImplicit false

namespace SampleTypes

/-! ## Floats -/

/-- The exponent of a float in scientific form: a sign and at least two digits. -/
def spellExponent (exponent : Int) : List Char :=
  let digits := Nat.toDigits 10 exponent.natAbs
  (if exponent < 0 then '-' else '+') :: (if digits.length < 2 then '0' :: digits else digits)

/-- The digits of a float whose first digit stands for `10 ^ exponent`. From `10 ^ -4` up to below
`10 ^ 16` they are written out, with a point and at least one digit on either side of it; outside that
range an exponent follows. -/
def spellDigits (digits : List Char) (exponent : Int) : List Char :=
  if exponent < -4 ∨ 16 ≤ exponent then
    match digits with
    | [] => []
    | [d] => d :: 'e' :: spellExponent exponent
    | d :: ds => d :: '.' :: ds ++ 'e' :: spellExponent exponent
  else if exponent < 0 then
    '0' :: '.' :: List.replicate (exponent.natAbs - 1) '0' ++ digits
  else
    let whole := exponent.toNat + 1
    if digits.length ≤ whole then
      digits ++ List.replicate (whole - digits.length) '0' ++ ['.', '0']
    else digits.take whole ++ '.' :: digits.drop whole

def spellFloat (x : Float) : List Char :=
  match floatParts x with
  | .nan => "nan".toList
  | .infinite negative => if negative then "-inf".toList else "inf".toList
  | .finite negative mantissa exponent =>
    -- Zero is on every grid, so it is spelled by hand.
    let (digits, first) :=
      if mantissa = 0 then (['0'], 0) else (shortestDecimal mantissa exponent).scientific
    (if negative then ['-'] else []) ++ spellDigits digits first

/-! ## Strings -/

/-- An escape by the number of a code point, as short as the number allows. -/
def numericEscape (n : Nat) : List Char :=
  if n < 0x100 then '\\' :: 'x' :: hexadecimal 2 n
  else if n < 0x10000 then '\\' :: 'u' :: hexadecimal 4 n
  else '\\' :: 'U' :: hexadecimal 8 n

/-- What stands for a character between quotes. -/
def quotedChar (quote c : Char) : List Char :=
  if c = quote ∨ c = '\\' then ['\\', c]
  else if c = '\n' then ['\\', 'n']
  else if c = '\r' then ['\\', 'r']
  else if c = '\t' then ['\\', 't']
  else if isPrintable c then [c]
  else numericEscape c.toNat

def CodePoint.quoted (quote : Char) : CodePoint → List Char
  | .scalar c => quotedChar quote c
  | .surrogate half => numericEscape (CodePoint.surrogate half).value

/-- The quote around a text: single, unless the text holds single quotes and no double ones. -/
def Text.quote (t : Text) : Char :=
  if t.contains (.scalar '\'') && !t.contains (.scalar '"') then '"' else '\''

/-- The text between quotes, with everything unprintable escaped. -/
def Text.quoted (t : Text) : Text :=
  Text.ofChars (t.quote :: t.flatMap (CodePoint.quoted t.quote) ++ [t.quote])

/-! ## Values -/

namespace Json

mutual

/-- The spelling of a value. -/
def spelling : Json → Text
  | null => "None"
  | bool b => if b then "True" else "False"
  | int n => toString n
  | float x => Text.ofChars (spellFloat x)
  | str s => s.quoted
  | arr items => ("[" : Text) ++ Text.join ", " (itemSpellings items) ++ ("]" : Text)
  | obj members => ("\x7b" : Text) ++ Text.join ", " (memberSpellings members) ++ ("\x7d" : Text)

def itemSpellings : List Json → List Text
  | [] => []
  | item :: items => item.spelling :: itemSpellings items

def memberSpellings : List (Text × Json) → List Text
  | [] => []
  | (key, value) :: members =>
    (key.quoted ++ (": " : Text) ++ value.spelling) :: memberSpellings members

end

/-- The text of a value: a string is its own text, any other value its spelling. -/
def plain : Json → Text
  | str s => s
  | value => value.spelling

end Json

end SampleTypes
