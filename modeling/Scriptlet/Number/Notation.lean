import Scriptlet.Number.Shortest

/-!
# Numbers as text

A number is written with the shortest digits that read back, always positionally: no exponent, no
point without a fraction after it, and a minus sign wherever the sign bit is set. What is not
finite is spelled out.
-/

namespace Scriptlet.Number

/-- The digits of a number, the most significant first. -/
def digitChars (n : Nat) : List Char :=
  Nat.toDigits 10 n

/-- A decimal written positionally. -/
def Decimal.positional (decimal : Decimal) : List Char :=
  let digits := digitChars decimal.digits
  if 0 ≤ decimal.exponent then digits ++ List.replicate decimal.exponent.toNat '0'
  else
    let places := (-decimal.exponent).toNat
    let padded := List.replicate (places + 1 - digits.length) '0' ++ digits
    let whole := padded.take (padded.length - places)
    let fraction := ((padded.drop (padded.length - places)).reverse.dropWhile (· == '0')).reverse
    if fraction.isEmpty then whole else whole ++ '.' :: fraction

/-- The characters of a number. -/
def chars (x : Float) : List Char :=
  if x.isNaN then "NaN".toList
  else if x.isInf then (if isNegative x then "-Infinity" else "Infinity").toList
  else
    let bits := magnitudeBits x
    let unsigned := if bits = 0 then ['0'] else (shortestDecimal bits).positional
    if isNegative x then '-' :: unsigned else unsigned

/-- The text of a number. -/
def text (x : Float) : String :=
  String.ofList (chars x)

end Scriptlet.Number
