import Scriptlet.Shell.Octets
import Scriptlet.Shell.Folder

/-!
# Places

A command works in a tree of folders, of which the working folder is a part, and from a current
folder in it. Paths are followed step by step; every step but the last has to lead into a folder.
-/

namespace Scriptlet.Shell

/-- A tree of folders, the ways to the files in it that were made programs, and the way to the
current folder. -/
structure Place where
  tree : Folder
  programs : List (List String)
  here : List String

namespace Place

/-- The way to the working folder. -/
def workingFolder : List String := ["tmp", "work"]

/-- The names of the tools that stand in a folder of their own. -/
def toolNames : List String :=
  ["[", "awk", "base64", "basename", "cat", "chmod", "cksum", "cmp", "comm", "cp", "cut", "date",
    "dd", "diff", "dirname", "echo", "egrep", "env", "expand", "expr", "factor", "false", "fgrep",
    "find", "fold", "grep", "head", "hostname", "id", "join", "kill", "ln", "ls", "md5sum",
    "mkdir", "mktemp", "mv", "nl", "nohup", "nproc", "od", "paste", "printenv", "printf", "pwd",
    "rev", "rm", "rmdir", "sed", "seq", "sh", "sha1sum", "sha256sum", "shuf", "sleep", "sort",
    "split", "stat", "sum", "sync", "tac", "tail", "tee", "test", "timeout", "touch", "tr", "true",
    "truncate", "tsort", "uname", "unexpand", "uniq", "unlink", "wc", "whoami", "xargs", "yes"]

/-- A folder of empty files with some names. -/
def folderOf (names : List String) : Node :=
  .folder (names.map fun name => (name, .file []))

/-- The place in which a command starts, with the files of the working folder. -/
def fresh (working : Folder) : Place where
  tree :=
    [("tmp", .folder [("work", .folder working)]), ("bin", folderOf toolNames),
      ("dev", folderOf ["null", "tty", "zero"]), ("etc", folderOf ["passwd", "group", "hosts"]),
      ("home", .folder []), ("lib", .folder []), ("proc", .folder []), ("root", .folder []),
      ("sys", .folder []),
      ("usr", .folder [("bin", folderOf toolNames), ("lib", .folder []), ("local", .folder [])]),
      ("var", .folder [("tmp", .folder [])])]
  programs := []
  here := workingFolder

/-- What stands at the end of a way. -/
def nodeAt? (place : Place) (way : List String) : Option Node :=
  match way.getLast? with
  | none => some (.folder place.tree)
  | some name => (place.tree.descend way.dropLast).toOption.bind (·.find? name)

/-- The files of the working folder. -/
def working (place : Place) : Folder :=
  match place.nodeAt? workingFolder with
  | some (.folder entries) => entries
  | _ => []

/-- Goes on from the end of a way by some steps. -/
def walk (place : Place) (way : List String) : List String → Except PathError (List String)
  | [] => .ok way
  | step :: rest => do
    if Folder.maxNameBytes < step.utf8ByteSize then throw .nameTooLong
    match place.nodeAt? way with
    | none => throw .notFound
    | some (.file _) => throw .notFolder
    | some (.folder _) =>
      if step = "" || step = "." then walk place way rest
      else if step = ".." then walk place way.dropLast rest
      else walk place (way ++ [step]) rest

/-- The way that a path describes. Nothing has to stand at its end. -/
def resolve (place : Place) (path : String) : Except PathError (List String) :=
  if path = "" then .error .notFound
  else if Folder.maxPathBytes < path.utf8ByteSize then .error .nameTooLong
  else if path.startsWith "/" then place.walk [] (Folder.steps path)
  else place.walk place.here (Folder.steps path)

/-- What a path leads to. -/
def get (place : Place) (path : String) : Except PathError Node := do
  match place.nodeAt? (← place.resolve path) with
  | some node => return node
  | none => throw .notFound

/-- What a path leads to, if it leads anywhere. -/
def get? (place : Place) (path : String) : Option Node := (place.get path).toOption

/-- Whether a path leads to a file. -/
def hasFile (place : Place) (path : String) : Bool :=
  match place.get? path with
  | some (.file _) => true
  | _ => false

/-- Whether a path leads to a folder. -/
def hasFolder (place : Place) (path : String) : Bool :=
  match place.get? path with
  | some (.folder _) => true
  | _ => false

/-- The octets of the file at the end of a way. -/
def readAt (place : Place) (way : List String) : Except PathError Octets :=
  match place.nodeAt? way with
  | some (.file bytes) => .ok (Octets.ofBytes bytes)
  | some (.folder _) => .error .isFolder
  | none => .error .notFound

/-- The octets of the file that a path leads to. -/
def read (place : Place) (path : String) : Except PathError Octets := do
  place.readAt (← place.resolve path)

/-- Puts something at the end of a way, in the place of what stands there. -/
def putAt (place : Place) (way : List String) (node : Node) : Place :=
  match way.getLast? with
  | none => place
  | some name => { place with tree := place.tree.modifyAt (·.set name node) way.dropLast }

/-- Takes away what stands at the end of a way. -/
def eraseAt (place : Place) (way : List String) : Place :=
  match way.getLast? with
  | none => place
  | some name => { place with tree := place.tree.modifyAt (·.erase name) way.dropLast }

/-- The ways to the folders of the tools. -/
def toolFolders : List (List String) := [["bin"], ["usr", "bin"]]

/-- Whether what stands at the end of a way can be entered or run. -/
def canRunAt (place : Place) (way : List String) : Bool :=
  match place.nodeAt? way with
  | some (.folder _) => true
  | some (.file _) => toolFolders.contains way.dropLast || place.programs.contains way
  | none => false

/-- The file that swallows everything. -/
def nowhere : List String := ["dev", "null"]

/-- Writes a file at the end of a way, unless a folder stands there. -/
def writeAt (place : Place) (way : List String) (octets : Octets) : Except PathError Place :=
  if way = nowhere then .ok place
  else
    match place.nodeAt? way with
    | some (.folder _) => .error .isFolder
    | _ => .ok (place.putAt way (.file octets.toBytes))

/-- Writes a file where a path leads, unless a folder stands there. -/
def write (place : Place) (path : String) (octets : Octets) : Except PathError Place := do
  place.writeAt (← place.resolve path) octets

/-- The way that a path describes, in which anything may stand. -/
def locate (place : Place) (path : String) : Except PathError (List String) :=
  if path.toList.contains '\x00' then .error .holdsNul else place.resolve path

/-- Makes an empty file where a path leads, unless something stands there. -/
def create (place : Place) (path : String) : Except PathError Place := do
  let way ← place.locate path
  if (place.nodeAt? way).isSome then throw .alreadyExists
  return place.putAt way (.file [])

/-- Takes away what stands at the end of a way and below it. -/
def removeAt (place : Place) (way : List String) : Place :=
  let programs := place.programs.filter fun program => !way.isPrefixOf program
  { place.eraseAt way with programs }

/-- Takes away the file that a path leads to. -/
def remove (place : Place) (path : String) : Except PathError Place := do
  let way ← place.locate path
  match place.nodeAt? way with
  | some (.file _) => return place.removeAt way
  | some (.folder _) => throw .isFolder
  | none => throw .notFound

/-- The names of the entries at the end of a way, in ascending order of their bytes. -/
def namesAt (place : Place) (way : List String) : List String :=
  match place.nodeAt? way with
  | some (.folder entries) => (entries.map (·.1)).mergeSort
  | _ => []

/-- A way as a path from the root. -/
def pathOf (way : List String) : String :=
  "/" ++ "/".intercalate way

/-- The wording of a cause. -/
def wording (cause : PathError) : String :=
  (cause.message.splitOn " (os").head?.getD ""

end Place

end Scriptlet.Shell
