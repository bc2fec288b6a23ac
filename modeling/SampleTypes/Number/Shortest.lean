import SampleTypes.Number.Binary
/-!
# The shortest decimal of a float

A float stands for every real number that rounds to it. Of the decimals in that interval the
*shortest* is the one on the coarsest grid of powers of ten; of two grid points in the interval it is
the one nearer to the float. It is found by exact arithmetic on naturals: the interval is measured in
quarters of the last binary place, and decimal and binary numbers are brought to one scale by
`decimalScale` and `binaryScale`.
-/

set_option autoImplicit false

namespace SampleTypes

/-- The number `digits * 10 ^ exponent`. -/
structure Decimal where
  digits : Nat
  /-- The power of ten by which they are multiplied. -/
  exponent : Int
deriving DecidableEq, Repr

/-- The factor that `10 ^ decimal` has on the common scale with `2 ^ binary`. -/
def decimalScale (decimal binary : Int) : Nat :=
  Nat.pow 10 decimal.toNat * Nat.pow 2 (-binary).toNat

/-- The factor that `2 ^ binary` has on the common scale with `10 ^ decimal`. -/
def binaryScale (decimal binary : Int) : Nat :=
  Nat.pow 10 (-decimal).toNat * Nat.pow 2 binary.toNat

/-- How far the interval of `mantissa * 2 ^ exponent` reaches down, in quarters of its last place: half
a place, but only a quarter where the next float below is in a finer binade. -/
def reachBelow (mantissa : Nat) (exponent : Int) : Nat :=
  if mantissa = Nat.pow 2 52 ∧ -1074 < exponent then 1 else 2

/-- Whether a decimal rounds to the float `mantissa * 2 ^ exponent`. The ends of the interval do so when
the mantissa is even. -/
def Decimal.roundsTo (d : Decimal) (mantissa : Nat) (exponent : Int) : Bool :=
  let point := d.digits * decimalScale d.exponent (exponent - 2)
  let unit := binaryScale d.exponent (exponent - 2)
  let low := (4 * mantissa - reachBelow mantissa exponent) * unit
  let high := (4 * mantissa + 2) * unit
  if mantissa % 2 = 0 then low ≤ point && point ≤ high else low < point && point < high

/-- The decimal on the grid of `10 ^ grid` that rounds to the float, the nearer one if there are two; in
the middle between two the even one. -/
def onGrid? (mantissa : Nat) (exponent grid : Int) : Option Decimal :=
  let value := 4 * mantissa * binaryScale grid (exponent - 2)
  let step := decimalScale grid (exponent - 2)
  let below : Decimal := ⟨value / step, grid⟩
  let above : Decimal := ⟨value / step + 1, grid⟩
  let rest := value % step
  let preferAbove := step < 2 * rest || (step = 2 * rest && below.digits % 2 = 1)
  match below.roundsTo mantissa exponent, above.roundsTo mantissa exponent with
  | true, true => some (if preferAbove then above else below)
  | true, false => some below
  | false, true => some above
  | false, false => none

/-- The coarsest grid on which a float can lie. -/
def coarsestGrid : Int := 308

/-- The number of grids from the coarsest to one that is finer than every float. -/
def gridCount : Nat := 640

/-- The shortest decimal that rounds to the float `mantissa * 2 ^ exponent`; the mantissa is not zero. -/
def shortestDecimal (mantissa : Nat) (exponent : Int) : Decimal :=
  -- The default is not reached with the parts of a float: the last grid is finer than its interval.
  ((List.range gridCount).findSome? fun (n : Nat) =>
      onGrid? mantissa exponent (coarsestGrid - (n : Int))).getD
    ⟨mantissa, exponent⟩

/-- The decimal digits and the power of ten of the first of them. -/
def Decimal.scientific (d : Decimal) : List Char × Int :=
  let digits := Nat.toDigits 10 d.digits
  (digits, d.exponent + digits.length - 1)

end SampleTypes
