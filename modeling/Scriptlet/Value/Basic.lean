import Scriptlet.Number.Notation
import Scriptlet.Number.Reading
import Scriptlet.Syntax.Basic

/-!
# Values

What a program computes with. A function is known by its identity: two functions are the same
exactly when they came into being together, however alike they are.
-/

namespace Scriptlet

/-- The number of a scope. -/
abbrev ScopeId : Type := Nat

/-- A function that is part of the language. -/
inductive Native where
  | newFile | getFile | deleteFile | writeFile | runCommand | time | sleep | input | typeOf
  | number | string | bool
  deriving Repr, DecidableEq

namespace Native

/-- Every native function, in the order in which a fresh global scope receives them. -/
def all : List Native :=
  [newFile, getFile, deleteFile, writeFile, runCommand, time, sleep, input, typeOf, number, string,
    bool]

/-- The name of a native function. -/
def name : Native → String
  | newFile => "newFile"
  | getFile => "getFile"
  | deleteFile => "deleteFile"
  | writeFile => "writeFile"
  | runCommand => "runCommand"
  | time => "time"
  | sleep => "sleep"
  | input => "input"
  | typeOf => "type"
  | number => "number"
  | string => "string"
  | bool => "bool"

/-- How many arguments a native function takes. -/
def arity : Native → Nat
  | time | input => 0
  | writeFile => 2
  | newFile | getFile | deleteFile | runCommand | sleep | typeOf | number | string | bool => 1

end Native

/-- A function. A declared one keeps the scope in which it was declared. -/
inductive Function where
  | native (identity : Nat) (builtin : Native)
  | declared (identity : Nat) (declaration : Declaration) (scope : ScopeId)

namespace Function

/-- The number of arguments that a call must supply. -/
def arity : Function → Nat
  | native _ builtin => builtin.arity
  | declared _ declaration _ => declaration.parameters.length

/-- Whether two functions are the same one. -/
def same : Function → Function → Bool
  | native left _, native right _ => left = right
  | declared left _ _, declared right _ _ => left = right
  | _, _ => false

/-- The text of a function. -/
def text : Function → String
  | native .. => "<native fn>"
  | declared _ declaration _ => "<fn " ++ declaration.name ++ ">"

end Function

/-- A value. -/
inductive Value where
  | number (value : Float)
  | bool (value : Bool)
  | text (content : String)
  | nil
  | function (callee : Function)

namespace Value

/-- The value of a literal. -/
def ofLiteral : Literal → Value
  | .number value => number value
  | .text content => text content
  | .bool value => bool value
  | .nil => nil

/-- A text, or `nil` where there is none. -/
def ofText? : Option String → Value
  | some content => text content
  | none => nil

/-- Whether a value counts as true: all do but `false`, `nil` and the numbers equal to zero. -/
def truthy : Value → Bool
  | nil => false
  | bool value => value
  | number value => value != 0
  | text _ | function _ => true

/-- The number that a value is. -/
def asNumber? : Value → Option Float
  | number value => some value
  | _ => none

/-- Whether two values are equal: of one type and, as numbers, of one representation, where all
that are not a number have the same. -/
def same : Value → Value → Bool
  | number left, number right => left.toBits = right.toBits
  | bool left, bool right => left = right
  | text left, text right => left = right
  | nil, nil => true
  | function left, function right => left.same right
  | _, _ => false

/-- The text of a value. -/
def display : Value → String
  | number value => Number.text value
  | bool true => "true"
  | bool false => "false"
  | text content => content
  | nil => "nil"
  | function callee => callee.text

/-- The name of the type of a value. A function is its own type. -/
def typeName : Value → String
  | number _ => "Number"
  | bool _ => "Bool"
  | function callee => callee.text
  | text _ | nil => "String"

/-- The number that the text of a value spells, or `nil`. -/
def toNumber (value : Value) : Value :=
  match Number.ofText? value.display with
  | some value => number value
  | none => nil

/-- Whether the text of a value is `true` in letters of either case. -/
def toBool (value : Value) : Value :=
  bool (value.display.toList.map Number.lowerAscii = ['t', 'r', 'u', 'e'])

end Value

end Scriptlet
