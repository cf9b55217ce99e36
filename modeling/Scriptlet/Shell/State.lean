import Scriptlet.Shell.Field
import Scriptlet.Shell.Outlet
import Scriptlet.Shell.Source

/-!
# The state of a command line

Variables, functions, arguments, streams and the current folder, and how the next command goes on.
What commands share with each other is the system; all else belongs to one of them.
-/

namespace Scriptlet.Shell

/-- How commands go on: with the next one, out of loops, to the next round of a loop, out of a
function, or not at all, either because that was asked for or because of a failure. -/
inductive Course where
  | onward
  | breaking (loops : Nat)
  | continuing (loops : Nat)
  | returning
  | exiting
  | failing
  deriving DecidableEq

/-- A variable, which may have no value. -/
structure Variable where
  name : String
  value? : Option String
  isExported : Bool
  isReadonly : Bool

/-- A job that ran aside: its number and its status. -/
structure Job where
  number : Nat
  status : Nat

/-- The state between commands. `frames` holds for each function that runs what its local variables
and options hide. `speaker` is the builtin command or the file that runs, if any; `errorLine` is the
line of the command that runs, and `functionLine` that of the function around it. Signals are for
the command line itself, not for the parts of it that run on their own. `depth` counts the
loops that may be left. `kept?` is the status from before a trap, while one runs. -/
structure State where
  system : System
  here : List String
  streams : List (Nat × Nat)
  name : String
  bindings : List Variable
  frames : List (List (String × Option Variable) × Option (List Char))
  functions : List (String × Nat × Command)
  aliases : List (String × String)
  arguments : List String
  options : List Char
  traps : List (Nat × String)
  signals : List Nat
  heedsSignals : Bool
  status : Nat
  answered : Nat
  course : Course
  depth : Nat
  speaker : String
  errorLine : Nat
  functionLine : Nat
  kept? : Option Nat
  documents : Array Word
  optionIndex : Nat
  optionOffset : Nat
  jobs : List Job
  mask : Nat

/-- The exit status of a command that does not exist. -/
def unknownStatus : Nat := 127

/-- The exit status of a command that cannot be run, and of a command line that cannot be read. -/
def troubleStatus : Nat := 2

/-- What separates fields where nothing else is said. -/
def usualSeparators : String := " \t\n"

/-- The number by which a command line knows itself. -/
def ownNumber : Nat := 4711

/-- The streams of a command line: what it reads, what it writes, and what it complains to. -/
def firstStreams : List (Nat × Nat) := [(0, 0), (1, 1), (2, 2)]

/-- The options by name and letter. -/
def optionNames : List (String × Char) :=
  [("errexit", 'e'), ("noglob", 'f'), ("ignoreeof", 'I'), ("interactive", 'i'), ("monitor", 'm'),
    ("noexec", 'n'), ("stdin", 's'), ("xtrace", 'x'), ("verbose", 'v'), ("vi", 'V'),
    ("emacs", 'E'), ("noclobber", 'C'), ("allexport", 'a'), ("notify", 'b'), ("nounset", 'u'),
    ("privileged", 'p'), ("nolog", ' '), ("debug", '\x00')]

namespace State

/-- The variables that a command line starts with. -/
def firstVariables : List Variable :=
  [⟨"HOME", some "/root", true, false⟩, ⟨"IFS", some usualSeparators, false, false⟩,
    ⟨"OLDPWD", none, true, false⟩, ⟨"OPTIND", some "1", false, false⟩,
    ⟨"PATH", some "/usr/local/sbin:/usr/local/bin:/usr/sbin:/usr/bin:/sbin:/bin", true, false⟩,
    ⟨"PPID", some (toString (ownNumber - 1)), false, false⟩, ⟨"PS1", some "# ", false, false⟩,
    ⟨"PS2", some "> ", false, false⟩, ⟨"PS4", some "+ ", false, false⟩,
    ⟨"PWD", some (Place.pathOf Place.workingFolder), true, false⟩]

/-- The state in which a command line starts. -/
def fresh (place : Place) : State where
  system := ⟨place.tree, place.programs, #[.supply [], .collector [], .collector []]⟩
  here := place.here
  streams := firstStreams
  name := "sh"
  bindings := firstVariables
  frames := []
  functions := []
  aliases := []
  arguments := []
  options := []
  traps := []
  signals := []
  heedsSignals := true
  status := 0
  answered := 0
  course := .onward
  depth := 0
  speaker := ""
  errorLine := 1
  functionLine := 0
  kept? := none
  documents := #[]
  optionIndex := 1
  optionOffset := 0
  jobs := []
  mask := 0o22

/-- The place of the current folder. -/
def place (state : State) : Place := state.system.place state.here

/-- The state with changed files. -/
def withPlace (state : State) (place : Place) : State :=
  { state with system := state.system.withPlace place }

/-- Whether commands go on. -/
def goesOn (state : State) : Bool := state.course = .onward

/-- The state that ends with a status, also where a trap runs. -/
def exit (state : State) (status : Nat) : State :=
  { state with status, kept? := state.kept?.map fun _ => status, course := .exiting }

/-- Whether an option is set. -/
def has (state : State) (option : Char) : Bool := state.options.contains option

/-- The letters of the options that are set. -/
def optionLetters (state : State) : String :=
  String.ofList ((optionNames.map (·.2)).filter fun c =>
    c.isAlpha && state.options.contains c).reverse

/-- Writes to a stream, and tells whether it takes anything. -/
def writeTo (state : State) (stream : Nat) (octets : Octets) : Bool × State :=
  match (state.streams.lookup stream).bind fun number => state.system.write? number octets with
  | some system => (true, { state with system })
  | none => (octets.isEmpty, state)

/-- Writes a text where complaints belong. -/
def mention (state : State) (text : String) : State :=
  (state.writeTo 2 text.toList).2

/-- Complains. -/
def complain (state : State) (message : String) : State :=
  let speaker := if state.speaker = "" then "" else state.speaker ++ ": "
  state.mention (state.name ++ ": " ++ toString state.errorLine ++ ": " ++ speaker ++ message ++
    "\n")

/-- Complains, and ends. -/
def giveUp (state : State) (message : String) : State :=
  { (state.complain message).exit troubleStatus with course := .failing }

/-- A variable by its name. -/
def entry? (state : State) (name : String) : Option Variable :=
  state.bindings.find? (·.name = name)

/-- The value of a variable, if it has one. -/
def value? (state : State) (name : String) : Option String :=
  match state.entry? name with
  | some entry => entry.value?
  | none => if name = "LINENO" then some (toString state.errorLine) else none

/-- The value of a variable, or nothing. -/
def value (state : State) (name : String) : String :=
  (state.value? name).getD ""

/-- Puts a variable in the place of the one with its name. -/
def putVariable (state : State) (entry : Variable) : State :=
  { state with
    bindings := entry :: state.bindings.filter fun other => other.name != entry.name }

/-- Takes a variable away. -/
def dropVariable (state : State) (name : String) : State :=
  { state with bindings := state.bindings.filter fun other => other.name != name }

/-- Gives a variable a value, unless it may not change. -/
def set (state : State) (name value : String) : Except String State :=
  let known := (state.entry? name).getD ⟨name, none, state.has 'a', false⟩
  if known.isReadonly then .error (name ++ ": is read only")
  else
    let isExported := known.isExported || state.has 'a'
    let state := state.putVariable { known with value? := some value, isExported }
    .ok (if name = "OPTIND" then
        { state with
          optionIndex := match count? value with
            | some 0 | none => 1
            | some index => index
          optionOffset := 0 }
      else state)

/-- Gives a variable a value, or gives up. -/
def assign (state : State) (name value : String) : State :=
  match state.set name value with
  | .ok state => state
  | .error message => state.giveUp message

/-- Marks a variable as one that is handed on to other commands. -/
def handOn (state : State) (name : String) : State :=
  let known := (state.entry? name).getD ⟨name, none, false, false⟩
  state.putVariable { known with isExported := true }

/-- Remembers a variable until the innermost function ends. -/
def makeLocal (state : State) (name : String) : State :=
  match state.frames with
  | [] => state
  | (hidden, options) :: outer =>
    if hidden.any (·.1 = name) then state
    else { state with frames := ((name, state.entry? name) :: hidden, options) :: outer }

/-- Puts back what local variables hide. -/
def leaveFrame (state : State) : State :=
  match state.frames with
  | [] => state
  | (hidden, options) :: outer =>
    let restored := hidden.foldl (fun state (name, earlier) =>
      match earlier with
      | some entry => state.putVariable entry
      | none => state.dropVariable name) { state with frames := outer }
    { restored with options := options.getD restored.options }

/-- What separates fields. -/
def separators (state : State) : List Char :=
  ((state.value? "IFS").getD usualSeparators).toList

/-- What joins arguments to a text. -/
def joint (state : State) : String :=
  match state.value? "IFS" with
  | none => " "
  | some separators => String.ofList (separators.toList.take 1)

/-- What a state of its own leaves to the one it was copied from. -/
def leave (state inner : State) : State :=
  { state with
    system := inner.system
    status := inner.status % 256
    signals := state.signals ++ inner.signals }

/-- The variables that are handed on to other commands. -/
def environment (state : State) : List (String × String) :=
  state.bindings.filterMap fun entry =>
    if entry.isExported then entry.value?.map (entry.name, ·) else none

/-- The state in which another command line starts. -/
def other (state : State) (name : String) (arguments : List String) : State :=
  let handedOn := state.environment.map fun (name, value) =>
    (⟨name, some value, true, false⟩ : Variable)
  let lacks (entry : Variable) : Bool := !handedOn.any (·.name = entry.name)
  let own := (firstVariables.filter fun entry =>
    lacks entry && (entry.name = "PATH" || !entry.isExported)).map fun entry =>
      { entry with isExported := false }
  let path : Variable := ⟨"PWD", some (wordOf (Place.pathOf state.here)), true, false⟩
  let own := if lacks path then path :: own else own
  let fixed := ["IFS", "OPTIND", "PPID", "PS4"]
  { state with
    name
    arguments
    bindings := own ++ handedOn.filter fun entry => !fixed.contains entry.name
    frames := []
    functions := []
    aliases := []
    options := []
    traps := state.traps.filter (·.2 = "")
    signals := []
    heedsSignals := true
    status := 0
    course := .onward
    depth := 0
    speaker := ""
    errorLine := 1
    functionLine := 0
    kept? := none
    optionIndex := 1
    optionOffset := 0
    jobs := [] }

/-- The state in which a part of a command line starts that runs on its own. -/
def apart (state : State) : State :=
  { state with
    traps := state.traps.filter (·.2 = "")
    signals := []
    heedsSignals := false
    kept? := none
    jobs := [] }

/-- The state behind a body that may have been left early, and whether its loop goes on. -/
def afterRound (state : State) : Bool × State :=
  match state.course with
  | .onward => (true, state)
  | .breaking 0 => (false, { state with course := .onward })
  | .breaking (loops + 1) => (false, { state with course := .breaking loops })
  | .continuing 0 => (true, { state with course := .onward })
  | .continuing (loops + 1) => (false, { state with course := .continuing loops })
  | .returning | .exiting | .failing => (false, state)

/-- Opens an outlet for a stream. -/
def connect (state : State) (stream : Nat) (outlet : Outlet) : State :=
  let (number, system) := state.system.addOutlet outlet
  { state with
    system
    streams := (stream, number) :: state.streams.filter (·.1 != stream) }

/-- Lets a stream lead where an outlet is already. -/
def connectTo (state : State) (stream number : Nat) : State :=
  { state with streams := (stream, number) :: state.streams.filter (·.1 != stream) }

/-- Closes a stream. -/
def close (state : State) (stream : Nat) : State :=
  { state with streams := state.streams.filter (·.1 != stream) }

/-- What can be read from a stream. -/
def waiting (state : State) (stream : Nat) : Octets :=
  ((state.streams.lookup stream).bind state.system.waiting?).getD []

/-- Whether what is read from a stream can be given back. -/
def windsBack (state : State) (stream : Nat) : Bool :=
  match (state.streams.lookup stream).bind fun number => state.system.outlets[number]? with
  | some (.file ..) => true
  | _ => false

/-- The state behind what was read from a stream. -/
def advance (state : State) (stream count : Nat) : State :=
  match state.streams.lookup stream with
  | some number => { state with system := state.system.advance number count }
  | none => state

end State

/-- Some characters between single quotes, from which they can be read again. Single quotes
themselves stand between double quotes. -/
def quotedRuns (bound : Nat) (chars : List Char) : List Char :=
  match bound with
  | 0 => []
  | bound + 1 =>
    let run := chars.takeWhile (· != '\'')
    let rest := chars.dropWhile (· != '\'')
    let quotes := rest.takeWhile (· == '\'')
    let behind := rest.dropWhile (· == '\'')
    '\'' :: run ++ '\'' :: (if quotes.isEmpty then [] else '"' :: quotes ++ ['"']) ++
      (if behind.isEmpty then [] else quotedRuns bound behind)

/-- A text between single quotes. -/
def singleQuotes (text : String) : String :=
  String.ofList (quotedRuns (text.length + 1) text.toList)

end Scriptlet.Shell
