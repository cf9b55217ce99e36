import Scriptlet.Number.Binary64

/-!
# The remainder of a division

The remainder has the sign of the dividend and is exact: it is the dividend less a whole multiple
of the divisor, and smaller than the divisor.
-/

namespace Scriptlet.Number

/-- The remainder of two magnitudes, over the finer of their two units. -/
def Magnitude.remainder (x y : Magnitude) : Magnitude :=
  let unit := min x.exponent y.exponent
  ⟨(x.significand * scale 2 (x.exponent - unit)) %
    (y.significand * scale 2 (y.exponent - unit)), unit⟩

/-- The bits of a magnitude that is a double. -/
def Magnitude.toBits (x : Magnitude) : Nat :=
  nearestRatio x.numerator x.denominator

/-- The remainder of `x` divided by `y`, with the sign of `x`. There is none for an infinite
dividend or a zero divisor, and an infinite divisor leaves the dividend as it is. -/
def remainder (x y : Float) : Float :=
  if x.isNaN || y.isNaN || x.isInf || magnitudeBits y = 0 then Float.ofBits 0x7FF8000000000000
  else if y.isInf then x
  else
    let left := Magnitude.ofBits (magnitudeBits x)
    let right := Magnitude.ofBits (magnitudeBits y)
    ofSignAndBits (isNegative x) (left.remainder right).toBits

end Scriptlet.Number
