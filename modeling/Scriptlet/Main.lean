import Scriptlet.CommandLine
import Scriptlet.Surroundings

/-!
# The program

Hands the arguments and the surroundings of the process to the command line, and carries out what
it answers: texts on both streams, an exit status, and the files that it changed. A script works on
a copy of the current folder, and what it changed there is written back at the end.
-/

namespace Scriptlet.Surroundings

/-- How deep folders are looked into. -/
def depthLimit : Nat := 64

/-- Files and folders with everything below them, to some depth. Files that cannot be read are left
out. -/
def readEntries : (depth : Nat) → List IO.FS.DirEntry → IO Folder
  | 0, _ => return []
  | depth + 1, entries => do
    let nodes ← entries.mapM fun entry => do
      try
        if ← entry.path.isDir then
          let inner ← readEntries depth (← entry.path.readDir).toList
          return some (entry.fileName, Node.folder inner)
        else return some (entry.fileName, .file (← IO.FS.readBinFile entry.path).toList)
      catch _ => return none
    return nodes.filterMap id

/-- Removes what a node stands for. -/
def remove (path : String) : Node → IO Unit
  | .file _ => IO.FS.removeFile path
  | .folder _ => IO.FS.removeDirAll path

/-- Changes the folder at a path from what it was into what it is. -/
def writeChanges : (depth : Nat) → (path : String) → (before after : Folder) → IO Unit
  | 0, _, _, _ => return ()
  | depth + 1, path, before, after => do
    for (name, node) in before do
      if (after.find? name).isNone then remove (path ++ "/" ++ name) node
    for (name, node) in after do
      let path := path ++ "/" ++ name
      match before.find? name, node with
      | some (.file old), .file bytes =>
        if old != bytes then IO.FS.writeBinFile path bytes.toByteArray
      | some (.folder old), .folder entries => writeChanges depth path old entries
      | found, node =>
        if let some found := found then remove path found
        match node with
        | .file bytes => IO.FS.writeBinFile path bytes.toByteArray
        | .folder entries =>
          IO.FS.createDir path
          writeChanges depth path [] entries

/-- The nanoseconds since the epoch, which are those at which a new file was changed last. -/
def readClock : IO Int := do
  let (_, path) ← IO.FS.createTempFile
  let time := (← path.metadata).modified
  IO.FS.removeFile path
  return time.sec * World.nanosPerSecond + time.nsec.toNat

/-- Whether reports are in colour. -/
def wantsColor : IO Bool := do
  return CommandLine.wantsColor (← IO.getEnv "CLICOLOR_FORCE") (← IO.getEnv "NO_COLOR")
    (← IO.getEnv "CLICOLOR") (← (← IO.getStdout).isTty)

/-- The files of the current folder. -/
def readFolder : IO Folder := do
  readEntries depthLimit (← (← IO.currentDir).readDir).toList

/-- The input of the process, if it may be read. -/
def readInput (reads : Bool) : IO Input := do
  let input ← if reads then (← IO.getStdin).readBinToEnd else pure .empty
  return input.toList

end Scriptlet.Surroundings

/-- Runs the command line in the surroundings of the process. -/
def main (arguments : List String) : IO UInt32 := do
  let folder ← Scriptlet.Surroundings.readFolder
  let surroundings := Scriptlet.Surroundings.fresh folder (← Scriptlet.Surroundings.readClock)
  let input ← Scriptlet.Surroundings.readInput (Scriptlet.CommandLine.readsInput arguments)
  let colored ← Scriptlet.Surroundings.wantsColor
  let response := Scriptlet.CommandLine.respond colored arguments ⟨surroundings, input⟩
  let after : Scriptlet.Surroundings := response.world.host
  let depth := Scriptlet.Surroundings.depthLimit
  Scriptlet.Surroundings.writeChanges depth "." folder after.place.working
  let output ← IO.getStdout
  output.write response.output.toByteArray
  output.flush
  IO.eprint response.errors
  return response.exitCode.toUInt32
