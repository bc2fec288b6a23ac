/-!
# Binary numbers — what a float is, exactly

A finite float is `mantissa * 2 ^ exponent` with a sign. `floatParts` reads the three off the bits,
so that questions about a float are answered in exact integers: `integerOf?` gives the integer that
a float is, and `floatOfDecimal` the float nearest to a decimal of any size.
-/

set_option autoImplicit false

namespace SampleTypes

/-- A float taken apart. -/
inductive FloatParts where
  | nan
  | infinite (negative : Bool)
  /-- The number `± mantissa * 2 ^ exponent`; the sign of zero is kept. -/
  | finite (negative : Bool) (mantissa : Nat) (exponent : Int)
deriving DecidableEq, Repr

/-- The sign, mantissa and exponent of a float. -/
def floatParts (x : Float) : FloatParts :=
  let bits := x.toBits.toNat
  let negative := bits / Nat.pow 2 63 == 1
  let biased : Nat := bits / Nat.pow 2 52 % 2048
  let fraction : Nat := bits % Nat.pow 2 52
  if biased = 2047 then
    if fraction = 0 then .infinite negative else .nan
  -- Zero and the subnormal numbers have no hidden bit.
  else if biased = 0 then .finite negative fraction (-1074)
  else .finite negative (Nat.pow 2 52 + fraction) ((biased : Int) - 1075)

/-- The integer that a float is, or `none` if it has a fractional part or is not finite. -/
def integerOf? (x : Float) : Option Int :=
  match floatParts x with
  | .finite negative mantissa exponent =>
    let sign : Int := if negative then -1 else 1
    if 0 ≤ exponent then some (sign * (mantissa * Nat.pow 2 exponent.toNat : Nat))
    else if mantissa % Nat.pow 2 (-exponent).toNat = 0 then
      some (sign * (mantissa / Nat.pow 2 (-exponent).toNat : Nat))
    else none
  | _ => none

/-- The least power of ten that no float reaches. -/
def floatDecimalCeiling : Int := 310

/-- A power of ten below which every decimal rounds to zero. -/
def floatDecimalFloor : Int := -330

/-- The float nearest to `± digits * 10 ^ exponent`, a tie going to the even mantissa. A decimal
beyond the range of floats is settled by its size alone, so that no power of ten is computed that
could not matter. -/
def floatOfDecimal (negative : Bool) (digits : Nat) (exponent : Int) : Float :=
  let size : Int := (Nat.toDigits 10 digits).length + exponent
  let magnitude : Float :=
    if digits = 0 then 0.0
    else if floatDecimalCeiling < size then 1.0 / 0.0
    else if size < floatDecimalFloor then 0.0
    else Float.ofScientific digits (decide (exponent < 0)) exponent.natAbs
  if negative then -magnitude else magnitude

end SampleTypes
