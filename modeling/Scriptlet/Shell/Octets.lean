import Scriptlet.Text.Utf8

/-!
# Octets

A command line works on bytes, whatever they may spell. Here a byte is written as the character
with its number, so that a list of characters below 256 stands for bytes and ASCII can be read.
-/

namespace Scriptlet.Shell

/-- Bytes, each written as the character with its number. -/
abbrev Octets : Type := List Char

namespace Octets

/-- Bytes as octets. -/
def ofBytes (bytes : List UInt8) : Octets :=
  bytes.map fun byte => Char.ofNat byte.toNat

/-- Octets as bytes. -/
def toBytes (octets : Octets) : List UInt8 :=
  octets.map fun c => UInt8.ofNat c.toNat

/-- The octets that spell a text. -/
def ofText (text : String) : Octets :=
  ofBytes (Text.encode text)

/-- The text that octets spell. -/
def toText (octets : Octets) : String :=
  Text.decodeLossy (toBytes octets)

/-- The lines of some octets, without the line ends. What stands behind the last line end is a line
too, unless it is empty. -/
def lines (octets : Octets) : List Octets :=
  let parts := octets.splitOn '\n'
  if parts.getLast? = some [] then parts.dropLast else parts

/-- The lines of some octets, each with its line end, which the last one may lack. -/
def pieces (octets : Octets) : List Octets :=
  let parts := octets.splitOn '\n'
  parts.dropLast.map (· ++ ['\n']) ++ (parts.getLast?.toList.filter fun part => !part.isEmpty)

/-- Lines with their line ends. -/
def ofLines (lines : List Octets) : Octets :=
  lines.flatMap (· ++ ['\n'])

end Octets

/-- Words whose characters stand for bytes, as the text that the bytes spell. -/
def spelled (word : String) : String :=
  Octets.toText word.toList

/-- A text as a word whose characters stand for bytes. -/
def wordOf (text : String) : String :=
  String.ofList (Octets.ofText text)

/-- A blank of ASCII, as it stands around numbers. -/
def isBlankOctet (c : Char) : Bool :=
  c == ' ' || ('\t' ≤ c && c ≤ '\x0d')

/-- Whether a character is an octal digit. -/
def isOctal (c : Char) : Bool := '0' ≤ c && c ≤ '7'

/-- Whether a character is a digit of base 16. -/
def isHex (c : Char) : Bool := c.isDigit || ('a' ≤ c.toLower && c.toLower ≤ 'f')

/-- The value of a digit, where letters follow on nine. -/
def digitOf (c : Char) : Nat :=
  if c.isDigit then c.toNat - 48 else c.toLower.toNat - 87

/-- The value of some digits in a base. -/
def digitsValue (base : Nat) (digits : List Char) : Nat :=
  digits.foldl (fun total c => total * base + digitOf c) 0

/-- A sign in front, if there is one: whether it is a minus, and what follows it. -/
def signOf : List Char → Bool × List Char
  | '-' :: rest => (true, rest)
  | '+' :: rest => (false, rest)
  | rest => (false, rest)

/-- The greatest number of 64 bits with a sign. -/
def greatestWhole : Int := 9223372036854775807

/-- The least number of 64 bits with a sign. -/
def leastWhole : Int := -9223372036854775808

/-- The whole number that some characters begin with, as it is spelled in programs: behind blanks
and a sign, digits of base 16 after `0x`, of base 2 after `0b`, of base 8 after another zero, and of
base 10 otherwise. A number beyond 64 bits gives the nearest one that has them. The answer tells
what stands behind the number, and whether it was too great; without any digits there is none. -/
def readWhole? (fixedTen : Bool) (chars : List Char) : Option (Int × Bool × List Char) :=
  let (negative, chars) := signOf (chars.dropWhile isBlankOctet)
  let taken : Option (Nat × List Char) :=
    let inBase (base : Nat) (isIn : Char → Bool) (chars : List Char) : Option (Nat × List Char) :=
      if (chars.takeWhile isIn).isEmpty then none
      else some (digitsValue base (chars.takeWhile isIn), chars.dropWhile isIn)
    if fixedTen then inBase 10 Char.isDigit chars
    else
      match chars with
      | '0' :: x :: rest =>
        if x == 'x' || x == 'X' then (inBase 16 isHex rest).or (some (0, x :: rest))
        else if x == 'b' || x == 'B' then
          (inBase 2 (fun c => c == '0' || c == '1') rest).or (some (0, x :: rest))
        else inBase 8 isOctal chars
      | '0' :: _ => inBase 8 isOctal chars
      | chars => inBase 10 Char.isDigit chars
  taken.map fun (value, rest) =>
    let value : Int := if negative then -(value : Int) else value
    (max leastWhole (min value greatestWhole), value < leastWhole || greatestWhole < value, rest)

/-- The whole number in base 10 that a word spells, blanks around it aside. -/
def wholeNumber? (word : String) : Option Int :=
  match readWhole? true word.toList with
  | some (value, false, rest) => if rest.all isBlankOctet then some value else none
  | _ => none

/-- The count that a word of digits alone spells. -/
def count? (word : String) : Option Nat :=
  if word != "" && word.toList.all Char.isDigit then some (digitsValue 10 word.toList) else none

end Scriptlet.Shell
