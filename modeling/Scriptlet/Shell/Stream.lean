import Scriptlet.Shell.State
import Scriptlet.Shell.Syntax

/-!
# Streams

Connecting streams of a command: to files, to what other streams lead to, or to nothing at all. A
file that is written comes into being, and is emptied unless it is appended to.
-/

namespace Scriptlet.Shell

/-- A redirection whose target is known: a text that names it, or a document. -/
inductive Connection where
  | named (descriptor : Nat) (direction : Direction) (target : String)
  | document (descriptor : Nat) (number : Nat)

/-- The stream that a path of a device means. -/
def deviceStream? (path : String) : Option Nat :=
  match path with
  | "/dev/stdin" => some 0
  | "/dev/stdout" => some 1
  | "/dev/stderr" => some 2
  | path =>
    if path.startsWith "/dev/fd/" then count? (path.drop 8).toString
    else if path.startsWith "/proc/self/fd/" then count? (path.drop 14).toString
    else none

namespace State

/-- Lets a stream lead where another one leads, if that is open. -/
def copyStream (state : State) (stream other : Nat) : Except String State :=
  match state.streams.lookup other with
  | some number => .ok (state.connectTo stream number)
  | none => .error (toString other ++ ": Bad file descriptor")

/-- Opens a file for reading. -/
def openToRead (state : State) (stream : Nat) (path : String) : Except String State :=
  match state.place.resolve (spelled path) with
  | .ok way =>
    if (state.place.nodeAt? way).isSome then
      .ok (state.connect stream (.file way 0 true false false))
    else .error ("cannot open " ++ path ++ ": No such file")
  | .error .nameTooLong => .error ("cannot open " ++ path ++ ": File name too long")
  | .error _ => .error ("cannot open " ++ path ++ ": No such file")

/-- Opens a file for writing, which comes into being if it is not there. -/
def openToWrite (state : State) (stream : Nat) (direction : Direction) (path : String) :
    Except String State :=
  let refuse (cause : String) : Except String State :=
    .error ("cannot create " ++ path ++ ": " ++ cause)
  let named := String.ofList (path.toList.reverse.dropWhile (· == '/')).reverse
  match state.place.resolve (spelled (if named = "" then path else named)) with
  | .error .nameTooLong => refuse "File name too long"
  | .error _ => refuse "Directory nonexistent"
  | .ok way =>
    let folder := state.place.nodeAt? way.dropLast
    match state.place.nodeAt? way, folder with
    | some (.folder _), _ => refuse "Is a directory"
    | found, some (.folder _) =>
      if path.endsWith "/" then refuse "Is a directory"
      else
      let clears := direction = .write || direction = .overwrite
      if found.isSome && direction = .write && state.has 'C' && way != Place.nowhere then
        refuse "File exists"
      else
        let place := if found.isNone || clears then state.place.writeAt way [] else .ok state.place
        match place with
        | .ok place =>
          .ok ((state.withPlace place).connect stream
            (.file way 0 (direction = .update) true (direction = .append)))
        | .error _ => refuse "Is a directory"
    | _, _ => refuse "Directory nonexistent"

/-- Connects a stream with what a text names. -/
def connectNamed (state : State) (stream : Nat) (direction : Direction) (target : String) :
    Except String State :=
  match direction with
  | .copyOutput | .copyInput =>
    if target = "-" then .ok (state.close stream)
    else
      match count? target with
      | some other => state.copyStream stream other
      | none => .error "Syntax error: Bad fd number"
  | direction =>
    match deviceStream? target with
    | some other => state.copyStream stream other
    | none =>
      if direction = .read then state.openToRead stream target
      else state.openToWrite stream direction target

end State

end Scriptlet.Shell
