/-!
# Doubles as scaled integers

A finite double without its sign is a whole significand times a power of two, and the bits of the
double nearest to a ratio are found by one exact division. Bit patterns of doubles without a sign
are ordered as the numbers are, so the pattern is the count of doubles below: the significand is
added to the patterns of all smaller exponents.
-/

namespace Scriptlet.Number

/-- The bits of positive infinity, the least pattern above all finite doubles. -/
def infinityBits : Nat := 0x7FF0000000000000

/-- The bit of the sign. -/
def signBit : Nat := 0x8000000000000000

/-- The number of doubles of one sign and exponent. -/
def binadeSize : Nat := 0x10000000000000

/-- A power of `base`, which is one where the exponent is negative. -/
def scale (base : Nat) (exponent : Int) : Nat := Nat.pow base exponent.toNat

/-- The double with the given sign whose other bits are `bits`. -/
def ofSignAndBits (negative : Bool) (bits : Nat) : Float :=
  Float.ofBits (UInt64.ofNat (if negative then signBit + bits else bits))

/-- Whether the sign bit of a double is set. -/
def isNegative (x : Float) : Bool :=
  signBit ≤ x.toBits.toNat

/-- The bits of a double without its sign. -/
def magnitudeBits (x : Float) : Nat :=
  x.toBits.toNat % signBit

/-- A finite number that is not negative: `significand * 2 ^ exponent`. -/
structure Magnitude where
  significand : Nat
  exponent : Int
  deriving Repr, DecidableEq

/-- The number with the given bits, which are those of a finite double without its sign. -/
def Magnitude.ofBits (bits : Nat) : Magnitude :=
  let biased := bits / binadeSize
  let fraction := bits % binadeSize
  if biased = 0 then ⟨fraction, -1074⟩ else ⟨binadeSize + fraction, Int.ofNat biased - 1075⟩

/-- A magnitude is the ratio of this number to `denominator`. -/
def Magnitude.numerator (x : Magnitude) : Nat :=
  x.significand * scale 2 x.exponent

/-- A magnitude is the ratio of `numerator` to this number. -/
def Magnitude.denominator (x : Magnitude) : Nat :=
  scale 2 (-x.exponent)

/-- The whole number nearest to a ratio; of two that are equally near, the even one. -/
def roundHalfEven (numerator denominator : Nat) : Nat :=
  let quotient := numerator / denominator
  match compare (2 * (numerator % denominator)) denominator with
  | .lt => quotient
  | .eq => quotient + quotient % 2
  | .gt => quotient + 1

/-- The greatest `e` with `2 ^ e` not above the ratio of two positive numbers. -/
def ratioLog2 (numerator denominator : Nat) : Int :=
  let e : Int := (numerator.log2 : Int) - denominator.log2
  if denominator * scale 2 e ≤ numerator * scale 2 (-e) then e else e - 1

/-- The bits of the double nearest to a ratio; of two that are equally near, the one with an even
significand. A ratio beyond the finite doubles gives infinity. -/
def nearestRatio (numerator denominator : Nat) : Nat :=
  if numerator = 0 then 0
  else
    let unit := max (ratioLog2 numerator denominator - 52) (-1074)
    let significand := roundHalfEven (numerator * scale 2 (-unit)) (denominator * scale 2 unit)
    min ((unit + 1074).toNat * binadeSize + significand) infinityBits

/-- The bits of the double nearest to `digits * 10 ^ exponent`. Far outside the range of the
doubles the answer is known without the exact power of ten. -/
def nearestDecimal (digits : Nat) (exponent : Int) : Nat :=
  if digits = 0 then 0
  else if 400 < exponent then infinityBits
  else if exponent < -400 - digits.log2 then 0
  else nearestRatio (digits * scale 10 exponent) (scale 10 (-exponent))

end Scriptlet.Number
