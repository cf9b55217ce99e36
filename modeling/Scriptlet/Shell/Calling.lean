import Scriptlet.Shell.Builtin
import Scriptlet.Shell.Expansion
import Scriptlet.Shell.Reader
import Scriptlet.Shell.Stream

/-!
# Calling commands

What can be said about a command before it runs: what its words call, what a path leads to, and how
a command line is called from another one.
-/

namespace Scriptlet.Shell

/-- The words that a command runs behind `command`, where that only puts functions aside. -/
def behindCommand : List String → Option (List String)
  | [] => none
  | word :: rest =>
    if word = "--" then if rest.isEmpty then none else some rest
    else
      match word.toList with
      | '-' :: letters@(_ :: _) => if letters.all (· == 'p') then behindCommand rest else none
      | _ => some (word :: rest)

/-- What the words of a command call: the words themselves, without `command` in front of them, and
whether that was there. Grave commands end the command line when they fail. In front of all but
those, assignments hold for the command alone. -/
structure Calling where
  fields : List String
  asideFunctions : Bool
  isGrave : Bool
  isFramed : Bool

namespace Calling

/-- The command that some words call, with `command` taken off. -/
def stripped (bound : Nat) (fields : List String) : List String :=
  match bound with
  | 0 => fields
  | bound + 1 =>
    match fields with
    | "command" :: rest => (behindCommand rest).elim fields (stripped bound)
    | _ => fields

/-- What some words call. -/
def ofFields (state : State) (fields : List String) : Calling :=
  let isFunction := fields.head?.any fun name => (state.functions.lookup name).isSome
  let isGrave := !isFunction && fields.head?.any gravestNames.contains
  let inner := if isFunction then fields else stripped fields.length fields
  { fields := inner
    asideFunctions := inner.length < fields.length
    isGrave
    isFramed := !fields.isEmpty && !isGrave }

/-- Whether assignments among the arguments of some words are expanded as assignments. -/
def takesAssignments (state : State) (fields : List String) : Bool :=
  let calling := ofFields state fields
  match calling.fields with
  | name :: _ =>
    ["export", "readonly", "local"].contains name &&
      (calling.asideFunctions || (state.functions.lookup name).isNone)
  | [] => false

end Calling

/-- What stands behind the name of a program: a tool, or a file with commands. -/
inductive Program where
  | tool (name : String)
  | script (path : String)

namespace State

/-- The state at a command on a line. Lines count from the beginning of the function around. -/
def onLine (state : State) (line : Nat) : State :=
  { state with errorLine := line - (state.functionLine - 1) }

/-- The program at the end of a way, if that can be run. -/
def programAt? (state : State) (way : List String) (path : String) : Option Program :=
  match state.place.nodeAt? way, way.getLast? with
  | some (.file _), some name =>
    if Place.toolFolders.contains way.dropLast then some (.tool name)
    else if state.place.canRunAt way then some (.script path)
    else none
  | _, _ => none

/-- The program with a name or a path, or a status and a complaint. -/
def program (state : State) (folders name : String) : Except (Nat × String) Program :=
  let way? (path : String) := (state.place.resolve (spelled path)).toOption
  let isThere (path : String) := (state.place.get? (spelled path)).isSome
  let found? (path : String) : Option Program := do
    state.programAt? (← way? path) path
  let refused (status : Nat) (cause : String) : Except (Nat × String) Program :=
    .error (status, name ++ ": " ++ cause)
  if name.toList.contains '/' then
    match found? name with
    | some program => .ok program
    | none => if isThere name then refused 126 "Permission denied" else refused 127 "not found"
  else
    let paths := (folders.splitOn ":").map fun folder =>
      if folder = "" then name else folder ++ "/" ++ name
    match paths.findSome? found? with
    | some program => .ok program
    | none => refused 127 (if paths.any isThere then "Permission denied" else "not found")

/-- Puts the streams with some descriptors back to where they led before. -/
def restoreStreams (state : State) (before : List (Nat × Nat)) (descriptors : List Nat) : State :=
  let kept := state.streams.filter fun stream => !descriptors.contains stream.1
  let restored := before.filter fun stream => descriptors.contains stream.1
  { state with streams := restored ++ kept }

/-- Whether the command line has come to its end. -/
def hasEnded (state : State) : Bool := state.course = .exiting || state.course = .failing

/-- The state that ends where options ask for it because a command has failed. -/
def checked (state : State) (tested : Bool) : State :=
  if !tested && !state.hasEnded && state.has 'e' && state.status ≠ 0 then state.exit state.status
  else state

/-- The state that goes on behind a failure, with a status that tells of it. -/
def recovered (state : State) : State :=
  if state.course = .failing then { state with course := .onward, status := troubleStatus }
  else state

/-- The state that goes on behind commands that may have been left early. -/
def absorbed (state : State) : State :=
  if state.course = .returning then { state with course := .onward } else state

end State

namespace Connection

/-- The stream that is connected. -/
def descriptor : Connection → Nat
  | named descriptor _ _ | document descriptor _ => descriptor

end Connection

/-- Where another command line takes its commands from. -/
inductive Script where
  | text (text : String)
  | file (path : String)
  | input

/-- Another command line: its commands, its name, its arguments and its options. -/
structure LineCall where
  script : Script
  name : String
  arguments : List String
  options : List Char

namespace LineCall

/-- The call that some arguments spell, of which options and a wish for a text are known. -/
def ofArguments (bound : Nat) (options : List Char) (wantsText : Bool) (arguments : List String) :
    Except String LineCall :=
  match bound with
  | 0 => .error "too many arguments"
  | bound + 1 =>
    let finish (rest : List String) : Except String LineCall :=
      match rest, wantsText with
      | text :: rest, true => .ok ⟨.text text, rest.headD "sh", rest.drop 1, options⟩
      | [], true => .error "-c requires an argument"
      | rest, false =>
        if options.contains 's' then .ok ⟨.input, "sh", rest, options⟩
        else
          match rest with
          | path :: rest => .ok ⟨.file path, path, rest, options⟩
          | [] => .ok ⟨.input, "sh", [], 's' :: options⟩
    match arguments with
    | [] => finish []
    | word :: rest =>
      match word.toList with
      | ['-', '-'] => finish rest
      | ['-'] => finish rest
      | sign :: letters@(_ :: _) =>
        if sign != '-' && sign != '+' then finish arguments
        else
          let known := letters.filter fun c => c != 'c' && c != 'o'
          let named := letters.contains 'o'
          let named? := (rest.head?.bind fun name => optionNames.lookup name).toList
          match known.find? fun c => !(c.isAlpha && (optionNames.map (·.2)).contains c) with
          | some c => .error ("Illegal option -" ++ String.singleton c)
          | none =>
            if named && named?.isEmpty then
              .error ("Illegal option " ++ String.singleton sign ++ "o " ++ rest.headD "")
            else
              let changed := known ++ if named then named? else []
              let others := options.filter fun c => !changed.contains c
              ofArguments bound (if sign == '-' then changed ++ others else others)
                (wantsText || letters.contains 'c') (if named then rest.drop 1 else rest)
      | _ => finish arguments

end LineCall

end Scriptlet.Shell
