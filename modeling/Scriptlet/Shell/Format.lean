import Scriptlet.Number.Reading
import Scriptlet.Shell.Octets

/-!
# Texts with escapes and formats

A backslash begins an escape: a letter or octal digits stand for an octet. A format is a text with
slots for arguments, which are written as numbers in some notation or as texts.
-/

namespace Scriptlet.Shell

/-- The octet that a letter behind a backslash stands for. -/
def escape? : Char → Option Char
  | 'a' => some '\x07'
  | 'b' => some '\x08'
  | 'e' => some '\x1b'
  | 'f' => some '\x0c'
  | 'n' => some '\n'
  | 'r' => some '\x0d'
  | 't' => some '\t'
  | 'v' => some '\x0b'
  | '\\' => some '\\'
  | _ => none

/-- The octet that an escape behind a backslash stands for, and what follows it. What is no escape
leaves the backslash. -/
def escaped : Octets → Char × Octets
  | [] => ('\\', [])
  | c :: rest =>
    let digits := ((c :: rest).takeWhile isOctal).take 3
    if digits.isEmpty then
      match escape? c with
      | some octet => (octet, rest)
      | none => ('\\', c :: rest)
    else (Char.ofNat (digitsValue 8 digits % 256), (c :: rest).drop digits.length)

/-- A text with its escapes replaced, and whether an escape has ended it. A zero may stand before
octal digits. -/
def unescape (bound : Nat) (chars : Octets) : Octets × Bool :=
  match bound with
  | 0 => ([], false)
  | bound + 1 =>
    match chars with
    | [] => ([], false)
    | '\\' :: 'c' :: _ => ([], true)
    | '\\' :: rest =>
      let digits := match rest with
        | '0' :: d :: _ => if isOctal d then rest.drop 1 else rest
        | _ => rest
      let (octet, behind) := escaped digits
      let (octets, ended) := unescape bound behind
      (octet :: octets, ended)
    | c :: rest =>
      let (octets, ended) := unescape bound rest
      (c :: octets, ended)

/-- A text with its escapes replaced, and whether an escape has ended it. -/
def unescaped (text : String) : Octets × Bool :=
  unescape (text.length + 1) text.toList

/-- A number for a slot: not a number, infinite, or a ratio, each with a sign. -/
inductive Quantity where
  | notANumber (negative : Bool)
  | infinite (negative : Bool)
  | ratio (negative : Bool) (numerator denominator : Nat)

namespace Quantity

/-- Whether the sign of a quantity is a minus. -/
def isNegative : Quantity → Bool
  | notANumber negative | infinite negative | ratio negative .. => negative

/-- The quantity with the bits of a double without its sign. -/
def ofBits (negative : Bool) (bits : Nat) : Quantity :=
  if Number.infinityBits ≤ bits then infinite negative
  else
    let magnitude := Number.Magnitude.ofBits bits
    ratio negative magnitude.numerator magnitude.denominator

end Quantity

/-- The digits of an unsigned number in base 16, from `0x` on, with an optional point and an
optional power of two: its bits as a double, and what follows it. -/
def hexBits? (chars : List Char) : Option (Nat × List Char) := do
  let whole := chars.takeWhile isHex
  let rest := chars.dropWhile isHex
  let (fraction, rest) := match rest with
    | '.' :: behind => (behind.takeWhile isHex, behind.dropWhile isHex)
    | rest => ([], rest)
  if whole.isEmpty && fraction.isEmpty then none
  let (power, rest) : Int × List Char := match rest with
    | p :: behind =>
      let (negative, digits) := signOf behind
      let taken := digits.takeWhile Char.isDigit
      if (p == 'p' || p == 'P') && !taken.isEmpty then
        let value : Int := digitsValue 10 taken
        (if negative then -value else value, digits.dropWhile Char.isDigit)
      else (0, rest)
    | [] => (0, rest)
  let shift := max (-100000) (min 100000 (power - 4 * (fraction.length : Int)))
  let digits := digitsValue 16 (whole ++ fraction)
  return (Number.nearestRatio (digits * Number.scale 2 shift) (Number.scale 2 (-shift)), rest)

/-- The number in decimal notation that some characters begin with: its bits as a double, and what
follows it. -/
def decimalBits? (chars : List Char) : Option (Nat × List Char) := do
  let whole := chars.takeWhile Char.isDigit
  let (fraction, rest) := Number.splitFraction (chars.dropWhile Char.isDigit)
  if whole.isEmpty && fraction.isEmpty then none
  let (exponent, rest) : Int × List Char := match rest with
    | e :: behind =>
      let (negative, digits) := signOf behind
      let taken := digits.takeWhile Char.isDigit
      if (e == 'e' || e == 'E') && !taken.isEmpty then
        let value : Int := Number.exponentOfDigits taken
        (if negative then -value else value, digits.dropWhile Char.isDigit)
      else (0, rest)
    | [] => (0, rest)
  return (Number.ofParts whole fraction exponent, rest)

/-- The quantity that some characters begin with, and what follows it. Without one it is zero. -/
def readQuantity? (chars : List Char) : Option (Quantity × List Char) :=
  let (negative, unsigned) := signOf (chars.dropWhile isBlankOctet)
  let lower := unsigned.map Char.toLower
  if "infinity".toList.isPrefixOf lower then some (.infinite negative, unsigned.drop 8)
  else if "inf".toList.isPrefixOf lower then some (.infinite negative, unsigned.drop 3)
  else if "nan".toList.isPrefixOf lower then some (.notANumber negative, unsigned.drop 3)
  else
    let found := match unsigned with
      | '0' :: x :: rest =>
        if x == 'x' || x == 'X' then (hexBits? rest).or (some (0, x :: rest))
        else decimalBits? unsigned
      | _ => decimalBits? unsigned
    found.map fun (bits, rest) => (Quantity.ofBits negative bits, rest)

/-- The digits of a number, at least as many as asked for. -/
def paddedDigits (count number : Nat) : List Char :=
  let digits := Nat.toDigits 10 number
  List.replicate (count - digits.length) '0' ++ digits

/-- A ratio with a fixed number of digits behind the point. -/
def fixedPoint (showsPoint : Bool) (precision numerator denominator : Nat) : List Char :=
  let scaled := Number.roundHalfEven (numerator * Nat.pow 10 precision) denominator
  let digits := paddedDigits (precision + 1) scaled
  let point := if precision = 0 && !showsPoint then [] else ['.']
  digits.take (digits.length - precision) ++ point ++ digits.drop (digits.length - precision)

/-- The exponent of ten of the first digit of a ratio. -/
def decimalExponent (numerator denominator : Nat) : Int :=
  let guess : Int :=
    ((Nat.toDigits 10 numerator).length : Int) - (Nat.toDigits 10 denominator).length
  if denominator * Number.scale 10 guess ≤ numerator * Number.scale 10 (-guess) then guess
  else guess - 1

/-- A positive ratio as digits, one of them before the point, and an exponent of ten. -/
def scientificDigits (precision numerator denominator : Nat) : List Char × Int :=
  if numerator = 0 then (List.replicate (precision + 1) '0', 0)
  else
    let exponent := decimalExponent numerator denominator
    let shift : Int := precision - exponent
    let scaled := Number.roundHalfEven (numerator * Number.scale 10 shift)
      (denominator * Number.scale 10 (-shift))
    if Nat.pow 10 (precision + 1) ≤ scaled then
      (Nat.toDigits 10 (scaled / 10), exponent + 1)
    else (Nat.toDigits 10 scaled, exponent)

/-- Digits with a point behind the first one. -/
def pointed (showsPoint : Bool) (digits : List Char) : List Char :=
  digits.take 1 ++ (if digits.length ≤ 1 && !showsPoint then [] else ['.']) ++ digits.drop 1

/-- An exponent with its sign. -/
def exponentText (width : Nat) (exponent : Int) : List Char :=
  (if exponent < 0 then '-' else '+') :: paddedDigits width exponent.natAbs

/-- Digits without zeros at the end of a fraction. -/
def withoutZeros (chars : List Char) : List Char :=
  if chars.contains '.' then
    let chars := (chars.reverse.dropWhile (· == '0')).reverse
    if chars.getLast? == some '.' then chars.dropLast else chars
  else chars

/-- A ratio in the shorter of the two notations. -/
def shorter (showsPoint : Bool) (precision numerator denominator : Nat) : List Char :=
  let precision := max 1 precision
  let (digits, exponent) := scientificDigits (precision - 1) numerator denominator
  let trim (chars : List Char) := if showsPoint then chars else withoutZeros chars
  if -4 ≤ exponent && exponent < precision then
    trim (fixedPoint showsPoint ((precision : Int) - 1 - exponent).toNat numerator denominator)
  else trim (pointed showsPoint digits) ++ 'e' :: exponentText 2 exponent

/-- A ratio that is a double, in base 16 with an exponent of two. -/
def binaryNotation (showsPoint : Bool) (precision : Option Nat) (numerator denominator : Nat) :
    List Char :=
  let bits := Number.nearestRatio numerator denominator
  let magnitude := Number.Magnitude.ofBits bits
  let isNormal := Number.binadeSize ≤ magnitude.significand
  let fraction := magnitude.significand % Number.binadeSize
  let lead := if isNormal then 1 else 0
  let exponent : Int := if bits = 0 then 0 else magnitude.exponent + 52
  let all := (lead * Number.binadeSize + fraction)
  let (whole, digits) := match precision with
    | none =>
      let digits := Nat.toDigits 16 fraction
      let digits := List.replicate (13 - digits.length) '0' ++ digits
      (lead, (digits.reverse.dropWhile (· == '0')).reverse)
    | some count =>
      if 13 ≤ count then
        let digits := Nat.toDigits 16 fraction
        (lead, List.replicate (13 - digits.length) '0' ++ digits ++
          List.replicate (count - 13) '0')
      else
        let rounded := Number.roundHalfEven all (Nat.pow 16 (13 - count))
        let digits := Nat.toDigits 16 (rounded % Nat.pow 16 count)
        (rounded / Nat.pow 16 count,
          if count = 0 then [] else List.replicate (count - digits.length) '0' ++ digits)
  let point := if digits.isEmpty && !showsPoint then [] else ['.']
  "0x".toList ++ Nat.toDigits 10 whole ++ point ++ digits ++ 'p' :: exponentText 1 exponent

/-- A slot of a format: its flags, its least width, the number of its characters or digits, and the
letter that ends it. -/
structure Slot where
  flags : List Char
  width : Nat
  precision : Option Nat
  letter : Char

namespace Slot

/-- Whether a slot has a flag. -/
def has (slot : Slot) (flag : Char) : Bool := slot.flags.contains flag

/-- A text with a part in front, made as wide as the slot asks. Zeros stand between the two. -/
def fill (slot : Slot) (mayPad : Bool) (front body : Octets) : Octets :=
  let missing := slot.width - (front.length + body.length)
  if slot.has '-' then front ++ body ++ List.replicate missing ' '
  else if slot.has '0' && mayPad then front ++ List.replicate missing '0' ++ body
  else List.replicate missing ' ' ++ front ++ body

/-- The sign in front of a number. -/
def sign (slot : Slot) (negative : Bool) : Octets :=
  if negative then ['-'] else if slot.has '+' then ['+'] else if slot.has ' ' then [' '] else []

/-- The digits of a whole number, at least as many as the slot asks for. Of zero there are none
where none are asked for. -/
def wholeDigits (slot : Slot) (base number : Nat) : Octets :=
  let digits := if number = 0 && slot.precision = some 0 then [] else Nat.toDigits base number
  List.replicate (slot.precision.getD 1 - digits.length) '0' ++ digits

/-- A whole number with a sign. -/
def writeSigned (slot : Slot) (number : Int) : Octets :=
  slot.fill slot.precision.isNone (slot.sign (number < 0)) (slot.wholeDigits 10 number.natAbs)

/-- A whole number of 64 bits without a sign. -/
def writeUnsigned (slot : Slot) (number : Nat) : Octets :=
  let upper (chars : Octets) := if slot.letter == 'X' then chars.map Char.toUpper else chars
  let base := match slot.letter with
    | 'o' => 8
    | 'x' | 'X' => 16
    | _ => 10
  let digits := slot.wholeDigits base number
  let digits :=
    if slot.letter == 'o' && slot.has '#' && digits.head? != some '0' then '0' :: digits
    else digits
  let front := if base = 16 && slot.has '#' && number ≠ 0 then ['0', 'x'] else []
  slot.fill slot.precision.isNone (upper front) (upper digits)

/-- A quantity. -/
def writeQuantity (slot : Slot) (quantity : Quantity) : Octets :=
  let upper (chars : Octets) := if slot.letter.isUpper then chars.map Char.toUpper else chars
  let front := slot.sign quantity.isNegative
  match quantity with
  | .notANumber _ => slot.fill false front (upper "nan".toList)
  | .infinite _ => slot.fill false front (upper "inf".toList)
  | .ratio _ numerator denominator =>
    let precision := slot.precision.getD 6
    let body := match slot.letter.toLower with
      | 'f' => fixedPoint (slot.has '#') precision numerator denominator
      | 'e' =>
        let (digits, exponent) := scientificDigits precision numerator denominator
        pointed (slot.has '#') digits ++ 'e' :: exponentText 2 exponent
      | 'g' => shorter (slot.has '#') precision numerator denominator
      | _ => binaryNotation (slot.has '#') slot.precision numerator denominator
    if slot.letter.toLower == 'a' then
      slot.fill true (front ++ upper (body.take 2)) (upper (body.drop 2))
    else slot.fill true front (upper body)

/-- A text, cut to as many octets as the slot asks for. -/
def writeText (slot : Slot) (text : Octets) : Octets :=
  slot.fill false [] (match slot.precision with
    | some count => text.take count
    | none => text)

end Slot

/-- What writing a format has come to: what is written, the last octet first, the arguments that
are left, the complaints, and whether an argument was amiss. -/
structure Formatting where
  written : List Octets
  left : List String
  complaints : List String
  amiss : Bool

/-- Why a format is not written to its end: an escape has ended it, or it is faulty. -/
inductive FormatEnd where
  | reached
  | ended
  | faulty (message : String)

/-- Writing a format. -/
abbrev Writing : Type → Type := StateM Formatting

namespace Writing

/-- Writes octets. -/
def put (octets : Octets) : Writing Unit :=
  modify fun state => { state with written := octets :: state.written }

/-- The next argument, if one is left. -/
def take : Writing (Option String) := do
  let found := (← get).left.head?
  modify fun state => { state with left := state.left.drop 1 }
  return found

/-- Notes that an argument is amiss. -/
def complain (message : String) : Writing Unit :=
  modify fun state => { state with complaints := state.complaints ++ [message], amiss := true }

/-- Notes what is wrong with the number that an argument spells. -/
def check (argument : String) (isNumber isTooGreat : Bool) (rest : List Char) : Writing Unit := do
  if !isNumber then
    if argument != "" then complain (argument ++ ": expected numeric value")
  else if !rest.isEmpty then complain (argument ++ ": not completely converted")
  else if isTooGreat then complain (argument ++ ": Numerical result out of range")

/-- The number of the character behind a quote. -/
def quotedNumber? (argument : String) : Option Nat :=
  match argument.toList with
  | '"' :: rest | '\'' :: rest => some ((rest.head?.map Char.toNat).getD 0)
  | _ => none

/-- The next argument as a whole number. -/
def takeWhole : Writing Int := do
  let some argument ← take | return 0
  if let some number := quotedNumber? argument then return number
  match readWhole? false argument.toList with
  | some (value, isTooGreat, rest) =>
    check argument true isTooGreat rest
    return value
  | none =>
    check argument false false []
    return 0

/-- The count of the numbers of 64 bits. -/
def wordCount : Nat := 0x10000000000000000

/-- The next argument as a whole number without a sign. A negative one counts from above. -/
def takeUnsigned : Writing Nat := do
  let some argument ← take | return 0
  if let some number := quotedNumber? argument then return number
  let (negative, unsigned) := signOf (argument.toList.dropWhile isBlankOctet)
  let digits := match unsigned with
    | '0' :: x :: rest =>
      if (x == 'x' || x == 'X') && rest.head?.any isHex then (16, rest.takeWhile isHex)
      else (8, unsigned.takeWhile isOctal)
    | '0' :: _ => (8, unsigned.takeWhile isOctal)
    | _ => (10, unsigned.takeWhile Char.isDigit)
  let value := digitsValue digits.1 digits.2
  match readWhole? false argument.toList with
  | some (_, _, rest) =>
    check argument true (wordCount ≤ value) rest
    return if wordCount ≤ value then wordCount - 1
      else if negative then (wordCount - value) % wordCount else value
  | none =>
    check argument false false []
    return 0

/-- The next argument as a quantity. -/
def takeQuantity : Writing Quantity := do
  let zero := Quantity.ratio false 0 1
  let some argument ← take | return zero
  if let some number := quotedNumber? argument then return .ratio false number 1
  match readQuantity? argument.toList with
  | some (quantity, rest) =>
    let spellsInfinity := (argument.toList.map Char.toLower).contains 'n'
    let isTooGreat := match quantity with
      | .infinite _ => !spellsInfinity
      | _ => false
    check argument true isTooGreat rest
    return quantity
  | none =>
    check argument false false []
    return zero

/-- A number that stands in a slot, or is the next argument where a star stands. -/
def slotNumber (chars : List Char) : Writing (Option Int × List Char) := do
  match chars with
  | '*' :: rest => return (some (← takeWhole), rest)
  | chars =>
    let digits := chars.takeWhile Char.isDigit
    return (if digits.isEmpty then none else some (digitsValue 10 digits : Nat),
      chars.drop digits.length)

/-- The slot that some characters spell behind a percent sign, and what follows it. -/
def slot (chars : List Char) : Writing (Slot × Bool × List Char) := do
  let isFlag (c : Char) := c == '-' || c == '+' || c == ' ' || c == '0' || c == '#'
  let flags := chars.takeWhile isFlag
  let (width, rest) ← slotNumber (chars.dropWhile isFlag)
  let (precision, rest) ← match rest with
    | '.' :: rest => do
      let (precision, rest) ← slotNumber rest
      pure (some (precision.getD 0), rest)
    | rest => pure (none, rest)
  let width := width.getD 0
  let found : Slot :=
    { flags := if width < 0 then '-' :: flags else flags
      width := width.natAbs
      precision := precision.bind fun count => if count < 0 then none else some count.toNat
      letter := rest.head?.getD ' ' }
  return (found, !rest.isEmpty, rest.drop 1)

/-- Writes a format once. -/
def once (bound : Nat) (chars : Octets) : Writing FormatEnd :=
  match bound with
  | 0 => return .reached
  | bound + 1 => do
    match chars with
    | [] => return .reached
    | '\\' :: rest =>
      let (octet, rest) := escaped rest
      put [octet]
      once bound rest
    | '%' :: '%' :: rest =>
      put ['%']
      once bound rest
    | '%' :: rest =>
      let (slot, isComplete, behind) ← slot rest
      if !isComplete then return .faulty "missing format character"
      let letter := slot.letter
      if letter == 'd' || letter == 'i' then put (slot.writeSigned (← takeWhole))
      else if ['o', 'u', 'x', 'X'].contains letter then put (slot.writeUnsigned (← takeUnsigned))
      else if ['a', 'A', 'e', 'E', 'f', 'F', 'g', 'G'].contains letter then
        put (slot.writeQuantity (← takeQuantity))
      else if letter == 's' then put (slot.writeText ((← take).getD "").toList)
      else if letter == 'c' then
        let argument := (← take).getD ""
        put (slot.fill false [] [argument.toList.head?.getD '\x00'])
      else if letter == 'b' then
        let (text, ended) := unescaped ((← take).getD "")
        put (slot.writeText text)
        if ended then return .ended
      else
        let spelling := '%' :: rest.take (rest.length - behind.length)
        return .faulty (String.ofList spelling ++ ": invalid directive")
      once bound behind
    | c :: rest =>
      put [c]
      once bound rest

/-- Writes a format again and again, as long as it takes arguments. -/
def whole (bound : Nat) (chars : Octets) : Writing FormatEnd :=
  match bound with
  | 0 => return .reached
  | bound + 1 => do
    let before := (← get).left.length
    match ← once (chars.length + 1) chars with
    | .reached =>
      let left := (← get).left.length
      if left = 0 || left = before then return .reached else whole bound chars
    | other => return other

end Writing

/-- Writes a format for some arguments. -/
def formatted (format : String) (arguments : List String) : FormatEnd × Formatting :=
  (Writing.whole (arguments.length + 1) format.toList).run ⟨[], arguments, [], false⟩

/-- What the words of an echo give. -/
def echoed (arguments : List String) : Octets :=
  let (ending, words) := match arguments with
    | "-n" :: rest => ([], rest)
    | words => (['\n'], words)
  let line := words.map unescaped
  let kept := line.takeWhile fun word => !word.2
  let cut := (line.drop kept.length).head?
  let texts := kept.map (·.1) ++ (cut.map (·.1)).toList
  [' '].intercalate texts ++ if cut.isSome then [] else ending

end Scriptlet.Shell
