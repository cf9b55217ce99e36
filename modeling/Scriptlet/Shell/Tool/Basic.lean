import Scriptlet.Shell.Place

/-!
# The work of tools

A tool gets arguments and works on what it finds: its input, the files around it and the variables
that are handed on to it. It reads, writes and complains, and its status tells how that went.
-/

namespace Scriptlet.Shell

/-- What a tool works on and what it has done so far: what was written, the last write first, with a
mark on complaints. Input that can be wound back is given back as far as it is not needed. -/
structure Work where
  place : Place
  input : Octets
  windsBack : Bool
  environment : List (String × String)
  writes : List (Bool × Octets)
  status : Nat

/-- The work of a tool. -/
abbrev Working : Type → Type := StateM Work

/-- Options, each a letter with a value, which is empty where it takes none, and operands. -/
structure Given where
  options : List (Char × String)
  operands : List String

namespace Given

/-- Whether an option is given. -/
def has (given : Given) (letter : Char) : Bool := given.options.any (·.1 == letter)

/-- The value of an option, the last one if there are several. -/
def value? (given : Given) (letter : Char) : Option String :=
  (given.options.reverse.find? (·.1 == letter)).map (·.2)

/-- All values of an option. -/
def values (given : Given) (letter : Char) : List String :=
  given.options.filterMap fun option => if option.1 == letter then some option.2 else none

/-- Which of some options is given last. -/
def last? (given : Given) (letters : List Char) : Option Char :=
  (given.options.reverse.find? fun option => letters.contains option.1).map (·.1)

end Given

/-- The options that a tool knows: letters alone, letters with values, and the letters that longer
names stand for. A tool may let its options end at the first operand. -/
structure Manual where
  tool : String
  plain : String
  valued : String
  names : List (String × Char)
  ordered : Bool

namespace Manual

/-- The complaint about an option. -/
def complaint (manual : Manual) (message : String) : String :=
  manual.tool ++ ": " ++ message ++ "\nTry '" ++ manual.tool ++ " --help' for more information."

/-- The letters of one argument. The value of the last one may be the next argument. -/
def letters (manual : Manual) (chars : List Char) (next? : Option String) :
    Except String (List (Char × String) × Bool) :=
  match chars with
  | [] => .ok ([], false)
  | c :: rest =>
    if manual.valued.toList.contains c then
      match rest, next? with
      | [], some next => .ok ([(c, next)], true)
      | [], none => .error (manual.complaint
          ("option requires an argument -- '" ++ String.singleton c ++ "'"))
      | rest, _ => .ok ([(c, String.ofList rest)], false)
    else if manual.plain.toList.contains c then do
      let (others, takesNext) ← letters manual rest next?
      return ((c, "") :: others, takesNext)
    else .error (manual.complaint ("invalid option -- '" ++ String.singleton c ++ "'"))

/-- A long option, and whether its value is the next argument. -/
def named (manual : Manual) (text : String) (next? : Option String) :
    Except String ((Char × String) × Bool) :=
  let name := String.ofList (text.toList.takeWhile (· != '='))
  let value? := if name.length < text.length then some (text.drop (name.length + 1)).toString
    else none
  let exact := manual.names.filter (·.1 == name)
  let found := if exact.isEmpty then manual.names.filter fun entry => entry.1.startsWith name
    else exact
  match found with
  | [] => .error (manual.complaint ("unrecognized option '--" ++ text ++ "'"))
  | (_, letter) :: _ =>
    if manual.valued.toList.contains letter then
      match value?, next? with
      | some value, _ => .ok ((letter, value), false)
      | none, some next => .ok ((letter, next), true)
      | none, none => .error (manual.complaint ("option '--" ++ name ++ "' requires an argument"))
    else .ok ((letter, ""), false)

/-- The options and operands among some arguments. -/
def read (manual : Manual) : List String → Except String Given
  | [] => .ok ⟨[], []⟩
  | word :: rest =>
    if word = "--" then .ok ⟨[], rest⟩
    else
      let skipped (takesNext : Bool) : Except String Given :=
        match rest, takesNext with
        | _ :: behind, true => read manual behind
        | rest, _ => read manual rest
      if word.startsWith "--" then do
        let (option, takesNext) ← manual.named (word.drop 2).toString rest.head?
        let given ← skipped takesNext
        return { given with options := option :: given.options }
      else if word.startsWith "-" && word != "-" then do
        let (options, takesNext) ← manual.letters (word.toList.drop 1) rest.head?
        let given ← skipped takesNext
        return { given with options := options ++ given.options }
      else if manual.ordered then .ok ⟨[], word :: rest⟩
      else do
        let given ← read manual rest
        return { given with operands := word :: given.operands }

end Manual

namespace Working

/-- Writes octets. -/
def write (octets : Octets) : Working Unit :=
  modify fun work => { work with writes := (false, octets) :: work.writes }

/-- Writes a line. -/
def writeLine (line : Octets) : Working Unit := write (line ++ ['\n'])

/-- Writes a text. -/
def writeText (text : String) : Working Unit := write text.toList

/-- Ends with a status, unless a higher one was set. -/
def quit (status : Nat) : Working Unit :=
  modify fun work => { work with status := max work.status status }

/-- Complains, with a status. -/
def complain (status : Nat) (message : String) : Working Unit := do
  modify fun work => { work with writes := (true, message.toList ++ ['\n']) :: work.writes }
  quit status

/-- What is left of the input, all of which is used up. -/
def takeInput : Working Octets := do
  let input := (← get).input
  modify fun work => { work with input := [] }
  return input

/-- Gives input back, if that is possible. -/
def giveBack (octets : Octets) : Working Unit :=
  modify fun work => if work.windsBack then { work with input := octets ++ work.input } else work

/-- Whether a path means the input. -/
def isInput (path : String) : Bool :=
  path == "-" || path == "/dev/stdin" || path == "/dev/fd/0" || path == "/proc/self/fd/0"

/-- What a path leads to, or the input. -/
def readPath (path : String) : Working (Except PathError Octets) := do
  if isInput path then return .ok (← takeInput)
  return (← get).place.read (spelled path)

/-- Reads what some paths lead to, with a complaint about each that leads to nothing. Without paths
the input is read. -/
def readAll (tool : String) (status : Nat) (paths : List String) :
    Working (List (String × Octets)) := do
  let mut found := #[]
  for path in if paths.isEmpty then ["-"] else paths do
    match ← readPath path with
    | .ok octets => found := found.push (path, octets)
    | .error cause => complain status (tool ++ ": " ++ path ++ ": " ++ Place.wording cause)
  return found.toList

/-- The octets of all that some paths lead to. -/
def readJoined (tool : String) (status : Nat) (paths : List String) : Working Octets := do
  return (← readAll tool status paths).flatMap (·.2)

/-- The files. -/
def place : Working Place := return (← get).place

/-- Changes the files, or complains. -/
def change (message : PathError → String) (changed : Except PathError Place) : Working Unit := do
  match changed with
  | .ok place => modify fun work => { work with place }
  | .error cause => complain 1 (message cause)

/-- Carries on with the options and operands of some arguments, or complains about them. -/
def withGiven (manual : Manual) (status : Nat) (arguments : List String)
    (body : Given → Working Unit) : Working Unit :=
  match manual.read arguments with
  | .ok given => body given
  | .error message => complain status message

end Working

/-- The whole number that a text spells, or a complaint. -/
def amount? (text : String) : Option Nat :=
  let chars := text.toList
  let digits := chars.takeWhile Char.isDigit
  let unit? : Option Nat := match String.ofList (chars.drop digits.length) with
    | "" => some 1
    | "b" => some 512
    | "kB" => some 1000
    | "K" | "k" | "KiB" => some 1024
    | "M" | "MiB" => some 1048576
    | _ => none
  if digits.isEmpty then none else unit?.map (digitsValue 10 digits * ·)

/-- A text with blanks in front up to a width. -/
def padLeft (width : Nat) (text : String) : String :=
  String.ofList (List.replicate (width - text.length) ' ') ++ text

end Scriptlet.Shell
