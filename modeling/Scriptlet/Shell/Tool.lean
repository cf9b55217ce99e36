import Scriptlet.Shell.Tool.Argument
import Scriptlet.Shell.Tool.Dump
import Scriptlet.Shell.Tool.Edit
import Scriptlet.Shell.Tool.Expression
import Scriptlet.Shell.Tool.Files
import Scriptlet.Shell.Tool.Lines
import Scriptlet.Shell.Tool.Search

/-!
# Tools

The well-known tools by their names, and those that run other programs.
-/

namespace Scriptlet.Shell

open Working

/-- What a tool does, if there is a tool of that name. -/
def tool? (name : String) : Option (List String → Working Unit) :=
  match name with
  | "true" | "sleep" | "sync" => some fun _ => quit 0
  | "false" => some fun _ => quit 1
  | "[" => some fun words =>
    if words.getLast? == some "]" then decideWords words.dropLast
    else complain 2 "[: missing ']'"
  | "test" => some decideWords
  | "echo" => some writeArguments
  | "printf" => some writeFormatted
  | "pwd" => some fun _ => do writeText (wordOf (Place.pathOf (← place).here) ++ "\n")
  | "expr" => some evaluateWords
  | "seq" => some countThrough
  | "yes" => some repeatWords
  | "basename" => some writeLastSteps
  | "dirname" => some writeParents
  | "printenv" => some writeVariables
  | "uname" => some fun words => if words.all (· == "-s") then writeText "Linux\n" else quit 0
  | "whoami" => some fun _ => writeText "root\n"
  | "cat" => some joinFiles
  | "head" => some (keepEnd "head" '-' Portion.atStart)
  | "tail" => some (keepEnd "tail" '+' Portion.atEnd)
  | "wc" => some countFiles
  | "tac" => some turnLines
  | "rev" => some turnCharacters
  | "nl" => some numberLines
  | "paste" => some pasteFiles
  | "fold" => some foldLines
  | "tee" => some passOn
  | "comm" => some compareFiles
  | "sort" => some sortFiles
  | "uniq" => some joinEqual
  | "cut" => some cutLines
  | "tr" => some exchange
  | "grep" => some (searchFiles 'G')
  | "egrep" => some (searchFiles 'E')
  | "fgrep" => some (searchFiles 'F')
  | "sed" => some editFiles
  | "od" => some dumpFiles
  | "base64" => some encodeFiles
  | "ls" => some listFiles
  | "rm" => some removeFiles
  | "unlink" => some removeFiles
  | "mkdir" => some makeFolders
  | "rmdir" => some removeFolders
  | "touch" => some touchFiles
  | "cp" => some (transferFiles false)
  | "mv" => some (transferFiles true)
  | "chmod" => some changeModes
  | "find" => some findFiles
  | _ => none

/-- What a tool has other programs do: the commands, the variables that are handed on to them, and
whether they are to find the input that is left. The status follows from theirs. -/
structure Launch where
  commands : List (List String)
  environment : List (String × String)
  sharesInput : Bool
  status : List Nat → Nat

namespace Launch

/-- A launch of a single command. -/
def single (environment : List (String × String)) (command : List String) : Launch :=
  ⟨[command], environment, true, fun statuses => statuses.headD 0⟩

/-- The command behind changes of variables. Without one the variables are to be shown. -/
def withVariables (bound : Nat) (environment : List (String × String)) (words : List String) :
    List (String × String) × List String :=
  match bound with
  | 0 => (environment, words)
  | bound + 1 =>
    match words with
    | "-i" :: rest | "-" :: rest => withVariables bound [] rest
    | "--" :: rest => withVariables bound environment rest
    | "-u" :: name :: rest => withVariables bound (environment.filter (·.1 != name)) rest
    | word :: rest =>
      let name := String.ofList (word.toList.takeWhile (· != '='))
      if word.contains '=' && !word.startsWith "=" then
        let value := (word.drop (name.length + 1)).toString
        withVariables bound (environment.filter (·.1 != name) ++ [(name, value)]) rest
      else (environment, words)
    | [] => (environment, [])

/-- The words of an input, which may be quoted. -/
def quotedWords (bound : Nat) (chars : Octets) (begun? : Option Octets) : List String :=
  match bound with
  | 0 => []
  | bound + 1 =>
    let push (octets : Octets) : Option Octets := some (octets.reverse ++ begun?.getD [])
    match chars with
    | [] => (begun?.map fun begun => String.ofList begun.reverse).toList
    | c :: rest =>
      if c == ' ' || c == '\t' || c == '\n' then
        (begun?.map fun begun => String.ofList begun.reverse).toList ++
          quotedWords bound rest none
      else if c == '\'' || c == '"' then
        quotedWords bound ((rest.dropWhile (· != c)).drop 1) (push (rest.takeWhile (· != c)))
      else if c == '\\' then quotedWords bound (rest.drop 1) (push (rest.take 1))
      else quotedWords bound rest (push [c])

/-- Commands that get the words of an input as arguments. -/
def ofInput (given : Given) (environment : List (String × String)) (input : Octets) : Launch :=
  let words := match given.value? 'I', given.value? 'd' with
    | some _, _ => (input.lines.map fun (line : Octets) =>
        String.ofList (line.dropWhile fun c => c == ' ' || c == '\t')).filter (· != "")
    | none, some separator =>
      let separator := if separator == "\\n" then '\n' else separator.toList.headD '\n'
      let parts := input.splitOn separator
      (if parts.getLast? == some [] then parts.dropLast else parts).map String.ofList
    | none, none =>
      if given.has '0' then
        let parts := input.splitOn '\x00'
        (if parts.getLast? == some [] then parts.dropLast else parts).map String.ofList
      else quotedWords (input.length + 1) input none
  let command := if given.operands.isEmpty then ["echo"] else given.operands
  let commands := match given.value? 'I' with
    | some mark => words.map fun word => command.map fun (part : String) => part.replace mark word
    | none =>
      let size := match given.value? 'n', given.value? 'L' with
        | some count, _ | none, some count => max 1 ((count? count).getD 1)
        | none, none => words.length + 1
      if words.isEmpty then if given.has 'r' then [] else [command]
      else (chunksOf (words.length + 1) size words).map (command ++ ·)
  ⟨commands, environment, false, fun statuses =>
    if statuses.any (· = 127) then 127
    else if statuses.any (· = 126) then 126
    else if statuses.any (· = 255) then 124
    else if statuses.any (· ≠ 0) then 123
    else 0⟩

end Launch

/-- What a tool has other programs do, if it is one that does so, or its complaint. -/
def launch? (name : String) (environment : List (String × String)) (input : Octets)
    (arguments : List String) : Option (Except (Nat × String) Launch) :=
  match name with
  | "env" =>
    let (changed, command) := Launch.withVariables (arguments.length + 1) environment arguments
    some (.ok (.single changed (if command.isEmpty then ["printenv"] else command)))
  | "nohup" => some (.ok (.single environment arguments))
  | "timeout" =>
    let words := arguments.dropWhile fun word => word.startsWith "-"
    some (.ok (.single environment (words.drop 1)))
  | "xargs" =>
    let manual : Manual := ⟨"xargs", "0rtx", "dInLPsE", [("null", '0'), ("no-run-if-empty", 'r'),
      ("max-args", 'n'), ("delimiter", 'd'), ("max-procs", 'P'), ("max-lines", 'L'),
      ("replace", 'I')], true⟩
    some <| match manual.read arguments with
    | .ok given => .ok (.ofInput given environment input)
    | .error message => .error (1, message)
  | _ => none

end Scriptlet.Shell
