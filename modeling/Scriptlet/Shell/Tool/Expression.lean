import Scriptlet.Shell.LinePattern
import Scriptlet.Shell.Tool.Basic

/-!
# Expressions of arguments

Each argument is a value or an operator: calculations with whole numbers of any size, comparisons,
choices, and questions about texts. A value counts as false if it is empty or zero.
-/

namespace Scriptlet.Shell

/-- Why an expression has no value. -/
inductive ExpressionTrouble where
  | missing (behind : String)
  | unexpected (word : String)
  | noInteger
  | zeroDivisor
  | unmatched

namespace ExpressionTrouble

/-- The wording of a trouble. -/
def message : ExpressionTrouble → String
  | missing behind => "syntax error: missing argument after '" ++ behind ++ "'"
  | unexpected word => "syntax error: unexpected argument '" ++ word ++ "'"
  | noInteger => "non-integer argument"
  | zeroDivisor => "division by zero"
  | unmatched => "syntax error: expecting ')' after"

end ExpressionTrouble

/-- The whole number that a value is, if it is one. -/
def integer? (value : String) : Option Int :=
  let (negative, digits) := match value.toList with
    | '-' :: rest => (true, rest)
    | rest => (false, rest)
  if digits.isEmpty || !digits.all Char.isDigit then none
  else some (if negative then -(digitsValue 10 digits : Int) else digitsValue 10 digits)

/-- Whether a value counts as false. -/
def isNil (value : String) : Bool :=
  value == "" || integer? value == some 0

/-- Evaluating the arguments that are left. The last one used is remembered. -/
abbrev Evaluating : Type → Type := StateT (String × List String) (Except ExpressionTrouble)

namespace Evaluating

/-- The next argument, which is left in its place. -/
def peek : Evaluating (Option String) := return (← get).2.head?

/-- The next argument. -/
def next : Evaluating String := do
  match ← get with
  | (_, word :: rest) =>
    set (word, rest)
    return word
  | (last, []) => throw (.missing last)

/-- A value as a whole number. -/
def integer (value : String) : Evaluating Int :=
  match integer? value with
  | some number => return number
  | none => throw .noInteger

/-- What an operator between two values gives. -/
def combined (operator left right : String) : Evaluating String := do
  let order : Ordering := match integer? left, integer? right with
    | some left, some right => compare left right
    | _, _ => if left < right then .lt else if left == right then .eq else .gt
  let truth (holds : Bool) : Evaluating String := return if holds then "1" else "0"
  match operator with
  | "|" => return if !isNil left then left else if isNil right then "0" else right
  | "&" => return if isNil left || isNil right then "0" else left
  | "<" => truth (order == .lt)
  | "<=" => truth (order != .gt)
  | "=" | "==" => truth (order == .eq)
  | "!=" => truth (order != .eq)
  | ">=" => truth (order != .lt)
  | ">" => truth (order == .gt)
  | "+" => return toString ((← integer left) + (← integer right))
  | "-" => return toString ((← integer left) - (← integer right))
  | "*" => return toString ((← integer left) * (← integer right))
  | operator =>
    let dividend ← integer left
    let divisor ← integer right
    if divisor = 0 then throw .zeroDivisor
    return toString (if operator == "/" then dividend.tdiv divisor else dividend.tmod divisor)

/-- What a text gives that is matched with a pattern from its beginning: what was captured, or the
number of characters. -/
def matched (text pattern : String) : String :=
  match LinePattern.ofText? false pattern with
  | none => ""
  | some found =>
    let captures := pattern.contains "\\("
    match found.longestAt? false ⟨none, text.toList, 0, []⟩ with
    | some after =>
      if captures then String.ofList ((after.captures.lookup 1).getD [])
      else toString after.index
    | none => if captures then "" else "0"

/-- The operators between values, the loosest first. -/
def levels : List (List String) :=
  [["|"], ["&"], ["<", "<=", "=", "==", "!=", ">=", ">"], ["+", "-"], ["*", "/", "%"], [":"]]

mutual

/-- Values joined by operators of some levels. -/
def level (bound : Nat) (levels : List (List String)) : Evaluating String :=
  match bound with
  | 0 => throw .unmatched
  | bound + 1 =>
    match levels with
    | [] => operand bound
    | operators :: tighter => do
      further bound operators tighter (← level bound tighter)

/-- What follows the first value on a level. -/
def further (bound : Nat) (operators : List String) (tighter : List (List String))
    (left : String) : Evaluating String :=
  match bound with
  | 0 => throw .unmatched
  | bound + 1 => do
    match ← peek with
    | some operator =>
      if !operators.contains operator then return left
      let _ ← next
      let right ← level bound tighter
      let value ← if operator == ":" then pure (matched left right)
        else combined operator left right
      further bound operators tighter value
    | none => return left

/-- A single value, a question about texts, or an expression between parentheses. -/
def operand (bound : Nat) : Evaluating String :=
  match bound with
  | 0 => throw .unmatched
  | bound + 1 => do
    let word ← next
    let more := (← peek).isSome
    match word with
    | "(" =>
      let value ← level bound levels
      match ← get with
      | (_, ")" :: rest) =>
        set (")", rest)
        return value
      | _ => throw .unmatched
    | ")" => throw (.unexpected ")")
    | "+" => if more then next else return word
    | "length" =>
      if !more then return word
      return toString (← operand bound).length
    | "match" =>
      if !more then return word
      let text ← operand bound
      return matched text (← operand bound)
    | "index" =>
      if !more then return word
      let text ← operand bound
      let chars ← operand bound
      let found := text.toList.findIdx? chars.toList.contains
      return toString (found.elim 0 (· + 1))
    | "substr" =>
      if !more then return word
      let text ← operand bound
      let start := integer? (← operand bound)
      let count := integer? (← operand bound)
      match start, count with
      | some start, some count =>
        if start ≤ 0 || count ≤ 0 then return ""
        return String.ofList ((text.toList.drop (start.toNat - 1)).take count.toNat)
      | _, _ => return ""
    | word => return word

end

end Evaluating

open Working in
/-- Evaluates an expression. -/
def evaluateWords (arguments : List String) : Working Unit := do
  let words := if arguments.head? == some "--" then arguments.drop 1 else arguments
  let bound := 16 * (words.length + 2)
  if words.isEmpty then
    complain 2 "expr: missing operand\nTry 'expr --help' for more information."
  else
    match (Evaluating.level bound Evaluating.levels).run ("", words) with
    | .ok (value, (_, [])) =>
      writeText (value ++ "\n")
      if isNil value then quit 1
    | .ok (_, (_, word :: _)) =>
      complain 2 ("expr: " ++ (ExpressionTrouble.unexpected word).message)
    | .error trouble => complain 2 ("expr: " ++ trouble.message)

end Scriptlet.Shell
