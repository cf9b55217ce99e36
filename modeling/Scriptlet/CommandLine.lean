import Scriptlet.Machine.Run

/-!
# The command line

What the program does as a whole: a function of its arguments and of the world, which answers with
an exit status and with what it writes to its two streams.
-/

namespace Scriptlet.CommandLine

/-- The name and the version of the language. -/
def versionText : String := "tern 0.1.0"

/-- A short reminder of the arguments. -/
def helpText : String :=
  "Usage: tern [-f|--file] [-e|--echo] [-V|--version] [-h|--help] [CONTENTS]"

/-- What the arguments ask for. -/
structure Options where
  file : Bool
  echo : Bool
  contents : Option String

/-- Why the arguments are not those of a run. -/
inductive Detour where
  | misused
  | version
  | help

/-- Turns a switch on, which has to be off. -/
def switchOn (switch : Bool) : Except Detour Bool :=
  if switch then throw .misused else return true

/-- Takes a switch of one letter. -/
def Options.addLetter (options : Options) : Char → Except Detour Options
  | 'f' => return { options with file := ← switchOn options.file }
  | 'e' => return { options with echo := ← switchOn options.echo }
  | 'V' => throw .version
  | 'h' => throw .help
  | _ => throw .misused

/-- Takes a switch with a long name. -/
def Options.addName (options : Options) : String → Except Detour Options
  | "--file" => options.addLetter 'f'
  | "--echo" => options.addLetter 'e'
  | "--version" => throw .version
  | "--help" => throw .help
  | _ => throw .misused

/-- Takes an argument that is no switch. -/
def Options.addContents (options : Options) (argument : String) : Except Detour Options :=
  match options.contents with
  | some _ => throw .misused
  | none => return { options with contents := some argument }

/-- Takes the arguments one after the other. Behind `--` none is a switch. -/
def Options.add (options : Options) : List String → Except Detour Options
  | [] => return options
  | "--" :: rest => rest.foldlM Options.addContents options
  | argument :: rest => do
    let options ←
      if argument.startsWith "--" then options.addName argument
      else if argument.startsWith "-" && argument != "-" then
        (argument.toList.drop 1).foldlM Options.addLetter options
      else options.addContents argument
    options.add rest

/-- The options that some arguments stand for. A file needs a name. -/
def Options.ofArguments (arguments : List String) : Except Detour Options := do
  let options ← (⟨false, false, none⟩ : Options).add arguments
  if options.file && options.contents.isNone then throw .misused
  return options

/-- Whether arguments ask for a run, which may read the input. -/
def readsInput (arguments : List String) : Bool :=
  (Options.ofArguments arguments).isOk

/-- The exit status of a misused command line. -/
def misuseStatus : Nat := 2

/-- The exit status where a script cannot be read. -/
def unreadableStatus : Nat := 64

/-- The exit status of a run that its bound cuts off. -/
def unfinishedStatus : Nat := 70

/-- The calls that may be under way. -/
def callLimit : Nat := 1024

variable [Host]

/-- What the program answers: its exit status, the bytes on its output, the text of its errors,
and the world that it leaves. -/
structure Response where
  exitCode : Nat
  output : List UInt8
  errors : String
  world : World

/-- Whether reports are in colour, by the settings that force colours, refuse them and switch them
on or off for a terminal. -/
def wantsColor (forced refused switch : Option String) (onTerminal : Bool) : Bool :=
  if forced.any (· != "0") then true
  else if refused.isSome then false
  else onTerminal && switch != some "0"

/-- The sequence behind which a text is red. -/
def redSequence : String := "\x1b[31m"

/-- The sequence behind which a text has no colour. -/
def plainSequence : String := "\x1b[0m"

/-- A text as it is reported: in red, if colours are wanted, and on lines of its own. Where the text
itself ends the colour, it is taken up again. -/
def reported (colored : Bool) (message : String) : String :=
  if colored then
    redSequence ++ message.replace plainSequence (plainSequence ++ redSequence) ++ plainSequence ++
      "\n"
  else message ++ "\n"

/-- The text of an answer of one line. -/
def lineResponse (exitCode : Nat) (line : String) (world : World) : Response :=
  ⟨exitCode, Text.encode (line ++ "\n"), "", world⟩

/-- Runs a script in a machine of its own. -/
def runScript (colored echo : Bool) (script : String) (world : World) : Response :=
  match (Machine.fresh ⟨echo, callLimit⟩ world .unlimited).run script with
  | .finished after => ⟨0, after.output.bytes, "", after.world⟩
  | .refused error after =>
    ⟨error.exitCode, after.output.bytes, reported colored error.message, after.world⟩
  | .unfinished => ⟨unfinishedStatus, [], "", world⟩

/-- Writes a text as it is. -/
def prompt (text : String) (machine : Machine) : Machine :=
  { machine with output := (machine.output.write (Text.encode text)).1 }

/-- Reads and runs one line after the other until the input ends, at most `bound` lines. The
errors of a line are reported, and the next line goes on with what the failed one left. -/
def interact (colored : Bool) (bound : Nat) (errors : String) (machine : Machine) : Response :=
  match bound with
  | 0 => ⟨0, machine.output.bytes, errors, machine.world⟩
  | bound + 1 =>
    let (line, machine) := (prompt "> " machine).readLine
    match line with
    | none =>
      let machine := prompt "\n" machine
      ⟨0, machine.output.bytes, errors, machine.world⟩
    | some line =>
      match machine.run line with
      | .finished after => interact colored bound errors after
      | .refused error after =>
        interact colored bound (errors ++ reported colored error.message) after
      | .unfinished => ⟨0, machine.output.bytes, errors, machine.world⟩

/-- Holds a conversation. Every line takes at least one byte of the input. -/
def converse (colored : Bool) (world : World) : Response :=
  interact colored (world.input.length + 1) "" (Machine.fresh ⟨true, callLimit⟩ world .unlimited)

/-- Does what some options ask for. -/
def perform (colored : Bool) (options : Options) (world : World) : Response :=
  match options.contents with
  | none => converse colored world
  | some contents =>
    if options.file then
      let (text, world) := world.readText contents
      match text with
      | .ok script => runScript colored options.echo script world
      | .error cause =>
        let message := "Failed to read the input file '" ++ contents ++ "': " ++ cause
        ⟨unreadableStatus, [], reported colored message, world⟩
    else runScript colored options.echo contents world

/-- What the program answers to its arguments. -/
def respond (colored : Bool) (arguments : List String) (world : World) : Response :=
  match Options.ofArguments arguments with
  | .ok options => perform colored options world
  | .error .version => lineResponse 0 versionText world
  | .error .help => lineResponse 0 helpText world
  | .error .misused => ⟨misuseStatus, [], helpText ++ "\n", world⟩

end Scriptlet.CommandLine
