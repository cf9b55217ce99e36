/-!
# Commands

Words keep their quotes as a difference between characters that are taken as they are and characters
that are split and matched with file names. Commands are built from words and redirections.
-/

namespace Scriptlet.Shell

/-- What is made of the value of a parameter. The flag `emptyToo` treats an empty value as none. -/
inductive Modifier where
  | asIs
  | length
  | otherwise (emptyToo : Bool)
  | assigned (emptyToo : Bool)
  | demanded (emptyToo : Bool)
  | instead (emptyToo : Bool)
  | without (atEnd longest : Bool)
  | unreadable

/-- What a redirection does with a stream. -/
inductive Direction where
  | write
  | overwrite
  | append
  | read
  | update
  | copyOutput
  | copyInput
  deriving DecidableEq

mutual

/-- A part of a word: a character that is not quoted, one that is, a quote, the value of a
parameter, the value of a sum, or what a command writes. -/
inductive Part where
  | plain (c : Char)
  | fixed (c : Char)
  | mark
  | value (name : String) (modifier : Modifier) (word : List Part)
  | sum (word : List Part)
  | answer (body : Command)

/-- A stream that leads elsewhere: to what a word names, or to the document with a number. -/
inductive Redirection where
  | named (descriptor : Nat) (direction : Direction) (target : List Part)
  | document (descriptor : Nat) (number : Nat)

/-- A command. Some know the line on which they stand. -/
inductive Command where
  | nothing
  | simple (line : Nat) (assignments words : List (List Part)) (streams : List Redirection)
  | pipeline (commands : List Command)
  | negated (body : Command)
  | andThen (left right : Command)
  | orElse (left right : Command)
  | sequence (first second : Command)
  | background (body : Command)
  | apart (line : Nat) (body : Command) (streams : List Redirection)
  | connected (line : Nat) (body : Command) (streams : List Redirection)
  | branch (condition positive negative : Command)
  | choose (line : Nat) (subject : List Part) (arms : List (List (List Part) × Command))
  | loop (goal : Bool) (condition body : Command)
  | each (line : Nat) (name : String) (words : List (List Part)) (body : Command)
  | define (line : Nat) (name : String) (body : Command)

end

/-- A word is made of parts. -/
abbrev Word : Type := List Part

/-- A character that may begin the name of a variable. -/
def beginsName (c : Char) : Bool := c.isAlpha || c == '_'

/-- A character inside the name of a variable. -/
def insideName (c : Char) : Bool := c.isAlphanum || c == '_'

/-- Whether some characters are the name of a variable. -/
def isName (chars : List Char) : Bool :=
  chars.head?.any beginsName && chars.all insideName

/-- The characters of a word without quotes and expansions. -/
def plainText? : Word → Option (List Char)
  | [] => some []
  | .plain c :: rest => (plainText? rest).map (c :: ·)
  | _ => none

/-- The characters of a word, where nothing in it is expanded. -/
def fixedText (word : Word) : List Char :=
  word.filterMap fun
    | .plain c | .fixed c => some c
    | _ => none

/-- The name and the value of the assignment that a word spells. -/
def assignment? (word : Word) : Option (String × Word) := do
  let bare := word.takeWhile fun
    | .plain c => insideName c
    | _ => false
  let name := fixedText bare
  let .plain '=' :: value := word.drop bare.length | none
  if isName name then return (String.ofList name, value) else none

end Scriptlet.Shell
