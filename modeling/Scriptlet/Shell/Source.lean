import Scriptlet.Shell.Octets
import Scriptlet.Shell.Syntax

/-!
# Sources of commands

A source is what is left of a command line. Reading from it gives characters, joined where a
backslash stands at the end of a line, and lexemes. Where a word is an alias, its text is put in
front of what is left, with a mark behind it.
-/

namespace Scriptlet.Shell

/-- A command line that cannot be read: the line of the trouble, and its wording. -/
structure SyntaxTrouble where
  line : Nat
  message : String

/-- A word, an operator, a redirection, or an end. -/
inductive Lexeme where
  | endOfInput
  | newline
  | operator (text : String)
  | redirection (descriptor : Option Nat) (text : String)
  | word (word : Word) (quoted : Bool)
  | keyword (text : String)

namespace Lexeme

/-- The name of a lexeme in complaints. -/
def described : Lexeme → String
  | endOfInput => "end of file"
  | newline => "newline"
  | operator text | keyword text => "\"" ++ text ++ "\""
  | redirection .. => "redirection"
  | word .. => "word"

/-- Whether a lexeme is a given keyword or operator. -/
def isText (text : String) : Lexeme → Bool
  | operator found | keyword found => found == text
  | _ => false

/-- The keywords. -/
def keywords : List String :=
  ["!", "case", "do", "done", "elif", "else", "esac", "fi", "for", "if", "in", "then", "until",
    "while", "\x7b", "\x7d"]

/-- Whether a lexeme ends a list of commands. -/
def endsList : Lexeme → Bool
  | endOfInput => true
  | operator text => text == ")" || text == ";;"
  | keyword text =>
    ["do", "done", "elif", "else", "esac", "fi", "then", "\x7d"].contains text
  | _ => false

end Lexeme

/-- A document that is announced: its number, the line that ends it, whether tabs at the beginning
of its lines are dropped, and whether it is expanded. -/
structure Announced where
  number : Nat
  ending : Octets
  dropsTabs : Bool
  expands : Bool

/-- What is left of a command line, and what reading it has found out. A lexeme may have been put
back. -/
structure Source where
  rest : Octets
  line : Nat
  aliases : List (String × String)
  inUse : List String
  aliasNext : Bool
  pushed : Option Lexeme
  announced : List Announced
  documents : List Word
  count : Nat

namespace Source

/-- The mark behind the text of an alias. It is no octet. -/
def aliasEnd : Char := '\u0100'

/-- The mark behind the text of an alias that ends with a blank. -/
def openAliasEnd : Char := '\u0101'

/-- A command line, as far as it is not read yet. -/
def ofOctets (rest : Octets) (line : Nat) (aliases : List (String × String)) (count : Nat) :
    Source where
  rest
  line
  aliases
  inUse := []
  aliasNext := false
  pushed := none
  announced := []
  documents := []
  count

/-- Some characters without the joined line ends in front, and the number of those. -/
def unjoined : Octets → Octets × Nat
  | '\\' :: '\n' :: rest =>
    let (rest, count) := unjoined rest
    (rest, count + 1)
  | rest => (rest, 0)

/-- The source without the joined line ends in front. -/
def join (source : Source) : Source :=
  let (rest, count) := unjoined source.rest
  { source with rest, line := source.line + count }

/-- The source behind the mark of an alias. -/
def closeAlias (source : Source) (mark : Char) : Source :=
  { source with
    inUse := source.inUse.drop 1
    aliasNext := source.aliasNext || mark == openAliasEnd }

end Source

/-- Reading from a source, which may fail. -/
abbrev Reading : Type → Type := StateT Source (Except SyntaxTrouble)

namespace Reading

/-- Fails with a complaint. -/
def fail {α : Type} (message : String) : Reading α := fun source =>
  .error ⟨source.line, "Syntax error: " ++ message⟩

/-- Fails at a lexeme, in whose place another one may have been expected. -/
def unexpected {α : Type} (lexeme : Lexeme) (expected : Option String) : Reading α :=
  fail (lexeme.described ++ " unexpected" ++
    match expected with
    | some text => " (expecting \"" ++ text ++ "\")"
    | none => "")

/-- The next character, which is left in its place. Joined line ends are skipped. -/
def peek : Reading (Option Char) := do
  modify Source.join
  return (← get).rest.head?

/-- Skips a character. -/
def skip : Reading Unit :=
  modify fun source =>
    match source.rest with
    | [] => source
    | c :: rest => { source with rest, line := if c == '\n' then source.line + 1 else source.line }

/-- The next character, whatever stands behind it. -/
def nextBare : Reading (Option Char) := do
  let found := (← get).rest.head?
  skip
  return found

/-- The next character. Joined line ends are skipped. -/
def next : Reading (Option Char) := do
  let found ← peek
  skip
  return found

/-- The characters in front that belong to a class. -/
def takeWhile (isIn : Char → Bool) (bound : Nat) : Reading (List Char) :=
  match bound with
  | 0 => return []
  | bound + 1 => do
    match ← peek with
    | some c =>
      if isIn c then
        skip
        return c :: (← takeWhile isIn bound)
      else return []
    | none => return []

/-- A bound on the number of steps that reading what is left can take. -/
def ample : Reading Nat := do
  return (← get).rest.length + 1

/-- Puts a lexeme back. -/
def putBack (lexeme : Lexeme) : Reading Unit :=
  modify fun source => { source with pushed := some lexeme }

/-- The line on which reading has arrived. -/
def line : Reading Nat := do
  return (← get).line

end Reading

/-- The lines of a document up to the one that ends it, what stands behind that, and the number of
lines read. Where lines are joined, the one behind a backslash at the end cannot end the
document. -/
def documentLines (announced : Announced) (bound : Nat) (joined : Bool) (chars : Octets) :
    Octets × Octets × Nat :=
  match bound with
  | 0 => ([], chars, 0)
  | bound + 1 =>
    if chars.isEmpty then ([], [], 0)
    else
      let chars := if announced.dropsTabs && !joined then chars.dropWhile (· == '\t') else chars
      let line := chars.takeWhile (· != '\n')
      let behind := chars.dropWhile (· != '\n')
      if !joined && line == announced.ending then (([], behind.drop 1, 1))
      else
        let joins := announced.expands &&
          (line.reverse.takeWhile (· == '\\')).length % 2 = 1
        let (body, rest, count) := documentLines announced bound joins (behind.drop 1)
        (line ++ behind.take 1 ++ body, rest, count + 1)

/-- The text of a command between backquotes, and what stands behind it. A backslash is dropped in
front of a character that it escapes. -/
def backquoted? (quoted : Bool) : Octets → Option (Octets × Octets)
  | [] => none
  | '\x60' :: rest => some ([], rest)
  | '\\' :: '\n' :: rest => backquoted? quoted rest
  | '\\' :: c :: rest => do
    let (text, behind) ← backquoted? quoted rest
    let escapes := c == '\\' || c == '\x60' || c == '$' || (quoted && c == '"')
    return (if escapes then c :: text else '\\' :: c :: text, behind)
  | c :: rest => do
    let (text, behind) ← backquoted? quoted rest
    return (c :: text, behind)

end Scriptlet.Shell
