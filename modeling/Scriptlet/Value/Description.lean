import Scriptlet.Text.Invisible
import Scriptlet.Value.Basic

/-!
# Descriptions for the curious

How functions and scopes are shown to whoever inspects them: their names between quotes, with
everything escaped that cannot be seen.
-/

namespace Scriptlet

namespace Text

/-- A digit of base 16. -/
def hexDigits (n : Nat) : List Char :=
  Nat.toDigits 16 n

/-- A character as it is shown between quotes. -/
def shownChar : Char → List Char
  | '\x00' => ['\\', '0']
  | '\t' => ['\\', 't']
  | '\r' => ['\\', 'r']
  | '\n' => ['\\', 'n']
  | '"' => ['\\', '"']
  | '\\' => ['\\', '\\']
  | c => if isInvisible c then ['\\', 'u', '\x7b'] ++ hexDigits c.toNat ++ ['\x7d'] else [c]

/-- A text between quotes. -/
def quoted (content : String) : String :=
  "\"" ++ String.ofList (content.toList.flatMap shownChar) ++ "\""

/-- Some texts between quotes and, together, between brackets. -/
def quotedList (contents : List String) : String :=
  "[" ++ ", ".intercalate (contents.map quoted) ++ "]"

end Text

/-- The description of a function. -/
def Function.description : Function → String
  | native _ builtin =>
    "Native \x7b name: " ++ Text.quoted builtin.name ++ ", arity: " ++ toString builtin.arity ++
      " \x7d"
  | declared _ declaration _ =>
    "User \x7b name: " ++ Text.quoted declaration.name ++ ", params: " ++
      Text.quotedList declaration.parameters ++ ", .. \x7d"

end Scriptlet
