import Scriptlet.Shell.Octets
import Scriptlet.Shell.Syntax

/-!
# Sums in commands

Whole numbers of 64 bits, variables, signs, the usual operators between them, conditions and
assignments. What a condition leaves aside is read, but neither calculated nor assigned.
-/

namespace Scriptlet.Shell

/-- A word of a sum. What cannot be one is `unknown`. -/
inductive Term where
  | number (value : Int)
  | name (name : String)
  | operator (text : String)
  | unknown
  deriving DecidableEq

/-- The operators of a sum, longer ones before those that they begin with. -/
def termOperators : List String :=
  ["<<=", ">>=", "<<", "<=", "<", ">>", ">=", ">", "==", "=", "!=", "!", "&&", "&=", "&", "||",
    "|=", "|", "+=", "+", "-=", "-", "*=", "*", "/=", "/", "%=", "%", "^=", "^", "~", "(", ")",
    "?", ":"]

/-- The words of a sum, up to what cannot be one. -/
def terms (bound : Nat) (chars : List Char) : List Term :=
  match bound with
  | 0 => []
  | bound + 1 =>
    match chars with
    | [] => []
    | c :: rest =>
      if c == ' ' || c == '\t' || c == '\n' then terms bound rest
      else if c.isDigit then
        match readWhole? false chars with
        | some (value, _, rest) => .number value :: terms bound rest
        | none => [.unknown]
      else if beginsName c then
        .name (String.ofList (chars.takeWhile insideName)) ::
          terms bound (chars.dropWhile insideName)
      else
        match termOperators.find? fun text => text.toList.isPrefixOf chars with
        | some text => .operator text :: terms bound (chars.drop text.length)
        | none => [.unknown]

/-- The operators between two numbers, the loosest first. Conditions are looser than all of them. -/
def sumLevels : List (List String) :=
  [["|"], ["^"], ["&"], ["==", "!="], ["<", ">", "<=", ">="], ["<<", ">>"], ["+", "-"],
    ["*", "/", "%"]]

/-- The operators that assign, besides the plain one, and the operators that they stand for. -/
def updates : List (String × String) :=
  [("+=", "+"), ("-=", "-"), ("*=", "*"), ("/=", "/"), ("%=", "%"), ("<<=", "<<"), (">>=", ">>"),
    ("&=", "&"), ("^=", "^"), ("|=", "|")]

/-- One for a truth. -/
def ofTruth (truth : Bool) : Int := if truth then 1 else 0

/-- The count of numbers of 64 bits. -/
def wordSize : Nat := 0x10000000000000000

/-- What an operator gives for two numbers. -/
def combine (operator : String) (left right : Int) : Except String Int :=
  let bits (combined : Int64) : Except String Int := .ok combined.toInt
  match operator with
  | "|" => bits (Int64.ofInt left ||| Int64.ofInt right)
  | "^" => bits (Int64.ofInt left ^^^ Int64.ofInt right)
  | "&" => bits (Int64.ofInt left &&& Int64.ofInt right)
  | "<<" => bits (Int64.ofInt left <<< Int64.ofInt right)
  | ">>" => bits (Int64.ofInt left >>> Int64.ofInt right)
  | "==" => .ok (ofTruth (left == right))
  | "!=" => .ok (ofTruth (left != right))
  | "<" => .ok (ofTruth (left < right))
  | ">" => .ok (ofTruth (left > right))
  | "<=" => .ok (ofTruth (left ≤ right))
  | ">=" => .ok (ofTruth (left ≥ right))
  | "+" => .ok ((left + right).bmod wordSize)
  | "-" => .ok ((left - right).bmod wordSize)
  | "*" => .ok ((left * right).bmod wordSize)
  | "/" => if right = 0 then .error "division by zero" else .ok ((left.tdiv right).bmod wordSize)
  | "%" => if right = 0 then .error "division by zero" else .ok (left.tmod right)
  | _ => .error "expecting EOF"

/-- Why a sum has no value: it cannot be read or calculated, or a variable in it is no number. -/
inductive SumTrouble where
  | sum (message : String)
  | number (text : String)

/-- The wording of a trouble with a sum of some text. -/
def SumTrouble.wording (trouble : SumTrouble) (text : String) : String :=
  match trouble with
  | sum message => "arithmetic expression: " ++ message ++ ": \"" ++ text ++ "\""
  | number text => "Illegal number: " ++ text

/-- What a sum has left to read, and the values that it has given to variables, the last one
first. -/
structure Summing where
  rest : List Term
  assigned : List (String × String)

/-- Reading and calculating a sum. -/
abbrev Calculation : Type → Type := StateT Summing (Except SumTrouble)

namespace Calculation

/-- Fails with a message. -/
def fail {α : Type} (message : String) : Calculation α := throw (.sum message)

/-- The next term, which is left in its place. -/
def peek : Calculation (Option Term) := return (← get).rest.head?

/-- Skips a term. -/
def skip : Calculation Unit := modify fun state => { state with rest := state.rest.drop 1 }

/-- The number that is the value of a variable. -/
def valueOf (value? : String → Option String) (name : String) : Calculation Int := do
  let text := ((← get).assigned.lookup name).or (value? name)
  let chars := (text.getD "").toList
  match readWhole? false chars with
  | some (value, false, rest) =>
    if rest.all isBlankOctet then return value else throw (.number (String.ofList chars))
  | some (_, true, _) => throw (.number (String.ofList chars))
  | none => if chars.all isBlankOctet then return 0 else throw (.number (String.ofList chars))

/-- Gives a variable a number. -/
def assign (name : String) (value : Int) : Calculation Int := do
  modify fun state => { state with assigned := (name, toString value) :: state.assigned }
  return value

mutual

/-- An assignment, or a choice. -/
def assignment (bound : Nat) (value? : String → Option String) (aside : Bool) : Calculation Int :=
  match bound with
  | 0 => fail "expecting primary"
  | bound + 1 => do
    match (← get).rest with
    | .name name :: .operator text :: rest =>
      let update := updates.lookup text
      if text = "=" || update.isSome then
        modify fun state => { state with rest }
        let right ← assignment bound value? aside
        if aside then return right
        match update with
        | none => assign name right
        | some operator =>
          match combine operator (← valueOf value? name) right with
          | .ok value => assign name value
          | .error message => fail message
      else choice bound value? aside
    | _ => choice bound value? aside

/-- A condition, or one of two sums behind it. -/
def choice (bound : Nat) (value? : String → Option String) (aside : Bool) : Calculation Int :=
  match bound with
  | 0 => fail "expecting primary"
  | bound + 1 => do
    let condition ← either bound value? aside
    if (← peek) != some (.operator "?") then return condition
    skip
    let positive ← assignment bound value? (aside || condition = 0)
    if (← peek) != some (.operator ":") then fail "expecting ':'"
    skip
    let negative ← choice bound value? (aside || condition ≠ 0)
    return if condition ≠ 0 then positive else negative

/-- Conditions of which one has to hold. -/
def either (bound : Nat) (value? : String → Option String) (aside : Bool) : Calculation Int :=
  match bound with
  | 0 => fail "expecting primary"
  | bound + 1 => do
    let left ← both bound value? aside
    if (← peek) != some (.operator "||") then return left
    skip
    let right ← either bound value? (aside || left ≠ 0)
    return ofTruth (left ≠ 0 || right ≠ 0)

/-- Conditions that have to hold all. -/
def both (bound : Nat) (value? : String → Option String) (aside : Bool) : Calculation Int :=
  match bound with
  | 0 => fail "expecting primary"
  | bound + 1 => do
    let left ← level bound value? aside sumLevels
    if (← peek) != some (.operator "&&") then return left
    skip
    let right ← both bound value? (aside || left = 0)
    return ofTruth (left ≠ 0 && right ≠ 0)

/-- Operands joined by operators of some levels. -/
def level (bound : Nat) (value? : String → Option String) (aside : Bool)
    (levels : List (List String)) : Calculation Int :=
  match bound with
  | 0 => fail "expecting primary"
  | bound + 1 =>
    match levels with
    | [] => operand bound value? aside
    | operators :: tighter => do
      further bound value? aside operators tighter (← level bound value? aside tighter)

/-- What follows the first operand on a level. -/
def further (bound : Nat) (value? : String → Option String) (aside : Bool)
    (operators : List String) (tighter : List (List String)) (left : Int) : Calculation Int :=
  match bound with
  | 0 => fail "expecting primary"
  | bound + 1 => do
    match ← peek with
    | some (.operator text) =>
      if !operators.contains text then return left
      skip
      let right ← level bound value? aside tighter
      if aside then further bound value? aside operators tighter right
      else
        match combine text left right with
        | .ok value => further bound value? aside operators tighter value
        | .error message => fail message
    | _ => return left

/-- A number, a variable, or a sum between parentheses, with signs in front. -/
def operand (bound : Nat) (value? : String → Option String) (aside : Bool) : Calculation Int :=
  match bound with
  | 0 => fail "expecting primary"
  | bound + 1 => do
    let found ← peek
    skip
    match found with
    | some (.number value) => return value
    | some (.name name) => if aside then return 0 else valueOf value? name
    | some (.operator "(") =>
      let value ← assignment bound value? aside
      if (← peek) != some (.operator ")") then fail "expecting ')'"
      skip
      return value
    | some (.operator "+") => operand bound value? aside
    | some (.operator "-") => return (-(← operand bound value? aside)).bmod wordSize
    | some (.operator "!") => return ofTruth ((← operand bound value? aside) = 0)
    | some (.operator "~") => return -(← operand bound value? aside) - 1
    | _ => fail "expecting primary"

end

end Calculation

/-- The value of a sum, and the values that it gives to variables, the last one first. -/
def sumOf (value? : String → Option String) (chars : List Char) :
    Except SumTrouble (Int × List (String × String)) := do
  let words := terms (chars.length + 1) chars
  let bound := 16 * (words.length + 2)
  let (value, state) ← (Calculation.assignment bound value? false).run ⟨words, []⟩
  if state.rest.isEmpty then return (value, state.assigned) else throw (.sum "expecting EOF")

end Scriptlet.Shell
