import Scriptlet.Shell.Place

/-!
# Conditions

Tests on texts, numbers and files, joined by signs for "not", "and" and "or". A sign that stands
where an operand has to stand is one.
-/

namespace Scriptlet.Shell

/-- What a word of a condition may be. -/
inductive Sign where
  | operand
  | one
  | two
  | negation
  | conjunction
  | disjunction
  | opening
  | closing
  | ending
  deriving DecidableEq

/-- What a word is if it is a sign. -/
def sign? (word : String) : Option Sign :=
  if ["-b", "-c", "-d", "-e", "-f", "-g", "-G", "-h", "-k", "-L", "-n", "-O", "-p", "-r", "-s",
      "-S", "-t", "-u", "-w", "-x", "-z"].contains word then some .one
  else if ["=", "!=", "<", ">", "-eq", "-ne", "-gt", "-ge", "-lt", "-le", "-nt", "-ot",
      "-ef"].contains word then some .two
  else
    match word with
    | "!" => some .negation
    | "-a" => some .conjunction
    | "-o" => some .disjunction
    | "(" => some .opening
    | ")" => some .closing
    | _ => none

/-- Whether the first of some words has to be an operand, although it looks like a sign. -/
def isOperand : List String → Bool
  | [] | [_] => true
  | [_, _] => false
  | _ :: second :: _ => sign? second = some .two

/-- What the first of some words is. -/
def signOfFirst (words : List String) : Sign :=
  match words with
  | [] => .ending
  | word :: rest =>
    match sign? word with
    | some .one => if isOperand words then .operand else .one
    | some .opening => if rest.isEmpty then .operand else .opening
    | some sign => sign
    | none => .operand

/-- A whole number in a condition. -/
def numberIn (word : String) : Except String Int :=
  match wholeNumber? word with
  | some value => .ok value
  | none => .error ("Illegal number: " ++ word)

/-- What a sign for one operand gives. -/
def holdsOne (place : Place) (sign operand : String) : Except String Bool :=
  let path := spelled operand
  match sign with
  | "-n" => .ok (operand != "")
  | "-z" => .ok (operand == "")
  | "-e" | "-r" | "-w" | "-O" | "-G" => .ok (place.get? path).isSome
  | "-f" => .ok (place.hasFile path && (place.resolve path).toOption != some Place.nowhere)
  | "-c" => .ok (place.hasFile path && (place.resolve path).toOption == some Place.nowhere)
  | "-d" => .ok (place.hasFolder path)
  | "-x" => .ok ((place.resolve path).toOption.any place.canRunAt)
  | "-s" => .ok <| match place.get? path with
    | some (.file bytes) => !bytes.isEmpty
    | some (.folder _) => true
    | none => false
  | "-t" => return (← numberIn operand) = -1
  | _ => .ok false

/-- What a sign between two operands gives. -/
def holdsTwo (place : Place) (left sign right : String) : Except String Bool := do
  match sign with
  | "=" => return left == right
  | "!=" => return left != right
  | "<" => return decide (left < right)
  | ">" => return decide (right < left)
  | "-nt" | "-ot" => return false
  | "-ef" =>
    match place.resolve (spelled left), place.resolve (spelled right) with
    | .ok first, .ok second => return first == second && (place.nodeAt? first).isSome
    | _, _ => return false
  | _ =>
    let left ← numberIn left
    let right ← numberIn right
    match sign with
    | "-eq" => return left = right
    | "-ne" => return left ≠ right
    | "-lt" => return left < right
    | "-le" => return left ≤ right
    | "-gt" => return left > right
    | _ => return left ≥ right

mutual

/-- Conditions of which one has to hold. The words that are left begin with the last one used. -/
def anyHolds (bound : Nat) (place : Place) (words : List String) :
    Except String (Bool × List String) :=
  match bound with
  | 0 => .error "too many words"
  | bound + 1 => do
    let (left, rest) ← allHold bound place words
    if signOfFirst (rest.drop 1) = .disjunction then
      let (right, rest) ← anyHolds bound place (rest.drop 2)
      return (left || right, rest)
    else return (left, rest)

/-- Conditions that have to hold all. -/
def allHold (bound : Nat) (place : Place) (words : List String) :
    Except String (Bool × List String) :=
  match bound with
  | 0 => .error "too many words"
  | bound + 1 => do
    let (left, rest) ← oneHolds bound place words
    if signOfFirst (rest.drop 1) = .conjunction then
      let (right, rest) ← allHold bound place (rest.drop 2)
      return (left && right, rest)
    else return (left, rest)

/-- A single condition, maybe negated. -/
def oneHolds (bound : Nat) (place : Place) (words : List String) :
    Except String (Bool × List String) :=
  match bound with
  | 0 => .error "too many words"
  | bound + 1 => do
    match signOfFirst words, words with
    | .negation, _ :: [] => return (true, words)
    | .negation, _ :: rest =>
      let (holds, rest) ← oneHolds bound place rest
      return (!holds, rest)
    | .ending, _ | _, [] => return (false, words)
    | .opening, _ :: rest =>
      if signOfFirst rest = .closing then return (false, rest)
      let (holds, rest) ← anyHolds bound place rest
      if signOfFirst (rest.drop 1) = .closing then return (holds, rest.drop 1)
      else .error "closing paren expected"
    | .one, sign :: rest =>
      match rest with
      | [] => .error (sign ++ ": argument expected")
      | operand :: _ => return (← holdsOne place sign operand, rest)
    | _, left :: rest =>
      match signOfFirst rest, rest with
      | .two, sign :: behind =>
        match behind with
        | [] => .error (sign ++ ": argument expected")
        | right :: _ => return (← holdsTwo place left sign right, behind)
      | _, _ => return (left != "", words)

end

/-- Whether a condition holds. -/
def holds (place : Place) (words : List String) : Except String Bool :=
  let whole (words : List String) : Except String Bool := do
    let (holds, rest) ← anyHolds (4 * (words.length + 2)) place words
    if rest.length ≥ 2 then .error ((rest[0]?.getD "") ++ ": unexpected operator") else return holds
  let rec decided (bound : Nat) (words : List String) : Except String Bool :=
    match bound, words with
    | 0, _ | _, [] => .ok false
    | bound + 1, [left, sign, right] =>
      if sign? sign = some .two then
        holdsTwo place left sign right
      else if left == "(" && right == ")" then whole [sign]
      else if left == "!" then return !(← decided bound [sign, right])
      else whole words
    | bound + 1, [first, second, third, fourth] =>
      if first == "(" && fourth == ")" then whole [second, third]
      else if first == "!" then return !(← decided bound [second, third, fourth])
      else whole words
    | _, words => whole words
  decided 4 words

end Scriptlet.Shell
