import Scriptlet.Number.Binary64
import Scriptlet.Text.Blank

/-!
# Numbers from text

The form of a number is an optional sign, digits with an optional point before, between or after
them, and an optional exponent. `inf`, `infinity` and `nan` are numbers too, in letters of either
case. A decimal stands for the double nearest to it.
-/

namespace Scriptlet.Number

/-- Whether a character is a decimal digit of ASCII. -/
def isDigit (c : Char) : Bool :=
  '0' ≤ c && c ≤ '9'

/-- The value of a digit. -/
def digitValue (c : Char) : Nat :=
  c.toNat - '0'.toNat

/-- A number with one more digit behind it. -/
def appendDigit (total : Nat) (c : Char) : Nat :=
  total * 10 + digitValue c

/-- The most digits that are read one after the other. -/
def shortRun : Nat := 32

/-- The number that a list of digits spells. Both halves of a long list are read by themselves, so
that few of the numbers on the way are long. -/
def ofDigits (digits : List Char) : Nat :=
  if digits.length ≤ shortRun then digits.foldl appendDigit 0
  else
    let half := digits.length / 2
    ofDigits (digits.take half) * Nat.pow 10 (digits.length - half) + ofDigits (digits.drop half)
termination_by digits.length
decreasing_by all_goals simp [shortRun] at *; omega

/-- Reading on from a number shifts it by the digits that follow. -/
theorem foldl_appendDigit (digits : List Char) (total : Nat) :
    digits.foldl appendDigit total =
      total * Nat.pow 10 digits.length + digits.foldl appendDigit 0 := by
  induction digits generalizing total with
  | nil => simp
  | cons c rest step =>
    rw [List.foldl_cons, step, List.foldl_cons, step (appendDigit 0 c)]
    simp only [appendDigit, List.length_cons, Nat.pow_eq, Nat.pow_succ, Nat.add_mul, Nat.mul_assoc]
    simp only [Nat.zero_mul, Nat.zero_add, Nat.mul_comm 10, Nat.add_assoc]

/-- Digits are read as if it was one after the other. -/
theorem ofDigits_eq_foldl (digits : List Char) :
    ofDigits digits = digits.foldl appendDigit 0 := by
  fun_induction ofDigits digits with
  | case1 => rfl
  | case2 digits long half first second =>
    have parts : digits.take half ++ digits.drop half = digits := List.take_append_drop ..
    conv => rhs; rw [← parts, List.foldl_append, foldl_appendDigit]
    rw [first, second, List.length_drop]

/-- The bits of the double nearest to a whole part and a fraction, shifted by `exponent` places. -/
def ofParts (whole fraction : List Char) (exponent : Int) : Nat :=
  nearestDecimal (ofDigits (whole ++ fraction)) (exponent - fraction.length)

/-- A sign, if there is one, and what follows it. -/
def splitSign : List Char → Bool × List Char
  | '-' :: rest => (true, rest)
  | '+' :: rest => (false, rest)
  | rest => (false, rest)

/-- From here on an exponent takes no further digit: it is far beyond all that matters. -/
def exponentLimit : Nat := 0x10000

/-- The exponent that some digits spell. What stands behind those that reach the limit is
dropped. -/
def exponentOfDigits (digits : List Char) : Nat :=
  digits.foldl (fun total c => if total < exponentLimit then appendDigit total c else total) 0

/-- The exponent that ends a decimal: nothing, or `e` with an optional sign and digits. -/
def exponent? : List Char → Option Int
  | [] => some 0
  | e :: rest =>
    let (negative, digits) := splitSign rest
    if (e == 'e' || e == 'E') && !digits.isEmpty && digits.all isDigit then
      some (if negative then -(exponentOfDigits digits : Int) else exponentOfDigits digits)
    else none

/-- The digits after a point, if there is one, and what follows them. -/
def splitFraction : List Char → List Char × List Char
  | '.' :: rest => (rest.takeWhile isDigit, rest.dropWhile isDigit)
  | rest => ([], rest)

/-- The bits of a decimal without a sign. -/
def decimalBits? (chars : List Char) : Option Nat :=
  let whole := chars.takeWhile isDigit
  let (fraction, rest) := splitFraction (chars.dropWhile isDigit)
  if whole.isEmpty && fraction.isEmpty then none
  else (exponent? rest).map (ofParts whole fraction)

/-- A letter of ASCII in lower case, and any other character as it is. -/
def lowerAscii (c : Char) : Char :=
  if 'A' ≤ c && c ≤ 'Z' then Char.ofNat (c.toNat + 32) else c

/-- The number that some characters spell, without blanks around it. -/
def ofChars? (chars : List Char) : Option Float :=
  let (negative, unsigned) := splitSign chars
  let word := unsigned.map lowerAscii
  if word = "nan".toList then some (Float.ofBits 0x7FF8000000000000)
  else if word = "inf".toList || word = "infinity".toList then
    some (ofSignAndBits negative infinityBits)
  else (decimalBits? unsigned).map (ofSignAndBits negative)

/-- The number that a text spells, with or without blanks around it. -/
def ofText? (text : String) : Option Float :=
  ofChars? (Text.trim text.toList)

end Scriptlet.Number
