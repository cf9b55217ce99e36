/-!
# Folders

Files with their bytes, folders with their entries, and why a path does not lead to what is asked
for.
-/

namespace Scriptlet

/-- A file with its bytes, or a folder with its entries by name. -/
inductive Node where
  | file (bytes : List UInt8)
  | folder (entries : List (String × Node))

/-- The entries of a folder, each name once. -/
abbrev Folder : Type := List (String × Node)

/-- Why nothing can be done at the end of a path. -/
inductive PathError where
  | notFound
  | alreadyExists
  | notFolder
  | isFolder
  | nameTooLong
  | holdsNul
  deriving Repr, DecidableEq

/-- The wording of a path error. -/
def PathError.message : PathError → String
  | notFound => "No such file or directory (os error 2)"
  | alreadyExists => "File exists (os error 17)"
  | notFolder => "Not a directory (os error 20)"
  | isFolder => "Is a directory (os error 21)"
  | nameTooLong => "File name too long (os error 36)"
  | holdsNul => "file name contained an unexpected NUL byte"

namespace Folder

/-- The entry with a name. -/
def find? (folder : Folder) (name : String) : Option Node :=
  folder.lookup name

/-- The folder with an entry put in, in the place of what had its name. -/
def set (folder : Folder) (name : String) (node : Node) : Folder :=
  match folder with
  | [] => [(name, node)]
  | (other, kept) :: rest =>
    if other = name then (name, node) :: rest else (other, kept) :: set rest name node

/-- The folder without the entry of a name. -/
def erase (folder : Folder) (name : String) : Folder :=
  folder.filter fun entry => entry.1 != name

/-- The folder at the end of some names, if each leads into a folder. -/
def descend (folder : Folder) : List String → Except PathError Folder
  | [] => .ok folder
  | name :: rest =>
    match folder.find? name with
    | some (.folder entries) => descend entries rest
    | some (.file _) => .error .notFolder
    | none => .error .notFound

/-- The folder with the one at the end of some names changed. -/
def modifyAt (folder : Folder) (change : Folder → Folder) : List String → Folder
  | [] => change folder
  | name :: rest =>
    match folder.find? name with
    | some (.folder entries) => folder.set name (.folder (modifyAt entries change rest))
    | _ => folder

/-- The longest that a name may be, in bytes. -/
def maxNameBytes : Nat := 255

/-- The longest that a path may be, in bytes. -/
def maxPathBytes : Nat := 4095

/-- The text between the slashes of a path. -/
def steps (path : String) : List String :=
  path.splitOn "/"

end Folder

end Scriptlet
