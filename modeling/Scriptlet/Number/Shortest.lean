import Scriptlet.Number.Binary64

/-!
# The shortest decimal that reads back

Of the decimals whose nearest double is the given one, the ones with the fewest digits are
considered, and of these the nearest to the double is chosen; of two that are equally near, the
greater. On a grid of a fixed number of digits only the two neighbours of the double can qualify
before any other does.
-/

namespace Scriptlet.Number

/-- A decimal number: `digits * 10 ^ exponent`. -/
structure Decimal where
  digits : Nat
  exponent : Int
  deriving Repr, DecidableEq

/-- Whether the double nearest to the decimal is the one with the given bits. -/
def Decimal.readsBack (decimal : Decimal) (bits : Nat) : Bool :=
  nearestDecimal decimal.digits decimal.exponent = bits

/-- How many decimal digits a number has. -/
def decimalLength (n : Nat) : Nat :=
  (Nat.toDigits 10 n).length

/-- The least `k` with the positive magnitude `x` below `10 ^ k`. -/
def Magnitude.decimalScale (x : Magnitude) : Int :=
  if x.denominator ≤ x.numerator then decimalLength (x.numerator / x.denominator)
  else 1 - (decimalLength ((x.denominator - 1) / x.numerator) : Int)

/-- The multiple of `10 ^ exponent` just below `x` or equal to it, in that unit. -/
def Magnitude.floorAt (x : Magnitude) (exponent : Int) : Nat :=
  (x.numerator * scale 10 (-exponent)) / (x.denominator * scale 10 exponent)

/-- Whether the middle between `digits` and `digits + 1`, in units of `10 ^ exponent`, is not
above `x`. -/
def Magnitude.reachesMiddle (x : Magnitude) (digits : Nat) (exponent : Int) : Bool :=
  (2 * digits + 1) * (x.denominator * scale 10 exponent) ≤ 2 * (x.numerator * scale 10 (-exponent))

/-- The decimal in units of `10 ^ exponent` that reads back as `bits` and is nearest to `x`, the
number that these bits stand for. -/
def Magnitude.onGrid? (x : Magnitude) (bits : Nat) (exponent : Int) : Option Decimal :=
  let below : Decimal := ⟨x.floorAt exponent, exponent⟩
  let above : Decimal := ⟨x.floorAt exponent + 1, exponent⟩
  match below.readsBack bits, above.readsBack bits with
  | true, false => some below
  | false, true => some above
  | true, true => some (if x.reachesMiddle below.digits exponent then above else below)
  | false, false => none

/-- The magnitude itself as a decimal, with all its digits. -/
def Magnitude.exactDecimal (x : Magnitude) : Decimal :=
  ⟨x.significand * scale 2 x.exponent * scale 5 (-x.exponent), min x.exponent 0⟩

/-- The shortest decimal for the finite double with the given bits, which are not zero. -/
def shortestDecimal (bits : Nat) : Decimal :=
  let x := Magnitude.ofBits bits
  let scale := x.decimalScale
  let counts := (List.range 17).map fun n => scale - (n + 1 : Nat)
  (counts.findSome? (x.onGrid? bits)).getD x.exactDecimal

end Scriptlet.Number
