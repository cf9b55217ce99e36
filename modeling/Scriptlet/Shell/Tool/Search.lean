import Scriptlet.Shell.LinePattern
import Scriptlet.Shell.Tool.Text

/-!
# Searching lines

The tool that finds lines with a match of a pattern, in files or in all files of a folder.
-/

namespace Scriptlet.Shell

open Working

/-- The ways to all files below a folder, each with its path as it is shown. -/
def filesBelow (bound : Nat) (path : String) (entries : Folder) : List (String × Octets) :=
  match bound with
  | 0 => []
  | bound + 1 =>
    let sorted := entries.mergeSort fun left right => decide (left.1 ≤ right.1)
    sorted.flatMap fun (name, node) =>
      let inner := (if path.endsWith "/" then path else path ++ "/") ++ wordOf name
      match node with
      | .file bytes => [(inner, Octets.ofBytes bytes)]
      | .folder entries => filesBelow bound inner entries

/-- The patterns that a search looks for, where those may stand only as whole words or lines. -/
def searchPatterns (given : Given) (kind : Char) (texts : List String) : List LinePattern :=
  (texts.flatMap fun text => text.splitOn "\n").filterMap fun text =>
    let found? := if kind == 'F' then some (LinePattern.literally text)
      else LinePattern.ofText? (kind == 'E') text
    found?.map fun found =>
      if given.has 'x' then .both .atStart (.both found .atEnd)
      else if given.has 'w' then
        .both (.atEdge .clearBefore) (.both found (.atEdge .clearBehind))
      else found

/-- Lines that are shown around those that are found: their numbers, and whether they are found
themselves. -/
def withContext (before after count : Nat) (hits : List Nat) : List (Nat × Bool) :=
  (List.range count).filterMap fun index =>
    if hits.contains index then some (index, true)
    else if hits.any fun hit => (hit ≤ index && index ≤ hit + after) ||
        (index ≤ hit && hit ≤ index + before) then some (index, false)
    else none

/-- Searches the lines of a file, and tells whether any was found. -/
def searchFile (given : Given) (patterns : List LinePattern) (name? : Option String)
    (path : String) (octets : Octets) : Working Bool := do
  let folds := given.has 'i' || given.has 'y'
  let number (letter : Char) : Option Nat := (given.value? letter).bind count?
  let lines := octets.lines.toArray
  let isHit (line : Octets) : Bool :=
    (patterns.any fun pattern => pattern.isIn folds line) != given.has 'v'
  let hits := (List.range lines.size).filter fun index => (lines[index]?).any isHit
  let hits := match number 'm' with
    | some most => hits.take most
    | none => hits
  let front (separator : String) (index : Nat) : String :=
    (name?.elim "" (· ++ separator)) ++
      if given.has 'n' then toString (index + 1) ++ separator else ""
  if given.has 'q' then return !hits.isEmpty
  if given.has 'l' then
    if !hits.isEmpty then writeText (path ++ "\n")
  else if given.has 'L' then
    if hits.isEmpty then writeText (path ++ "\n")
  else if given.has 'c' then
    writeText (name?.elim "" (· ++ ":") ++ toString hits.length ++ "\n")
  else if given.has 'o' then
    if !given.has 'v' then
      for index in hits do
        let line := (lines[index]?).getD []
        let found := patterns.flatMap fun pattern =>
          pattern.findAll folds (line.length + 2) ⟨none, line, 0, []⟩ none
        let sorted := found.mergeSort fun left right => decide (left.1 ≤ right.1)
        for (start, after) in sorted do
          if start < after.index then
            writeLine ((front ":" index).toList ++ (line.take after.index).drop start)
  else
    let around := number 'C'
    let before := (number 'B').or around
    let after := (number 'A').or around
    let shown := withContext (before.getD 0) (after.getD 0) lines.size hits
    let mut last? : Option Nat := none
    for (index, isHit) in shown do
      if (before.isSome || after.isSome) && last?.any (· + 1 < index) then writeText "--\n"
      last? := some index
      writeLine ((front (if isHit then ":" else "-") index).toList ++ (lines[index]?).getD [])
  return !hits.isEmpty

/-- Finds lines. -/
def searchFiles (usual : Char) (arguments : List String) : Working Unit :=
  withGiven ⟨"grep", "EFGPivnclLqsowxhHrRayz", "efmABC", [("ignore-case", 'i'),
    ("invert-match", 'v'), ("line-number", 'n'), ("count", 'c'), ("files-with-matches", 'l'),
    ("files-without-match", 'L'), ("quiet", 'q'), ("silent", 'q'), ("no-messages", 's'),
    ("only-matching", 'o'), ("word-regexp", 'w'), ("line-regexp", 'x'), ("no-filename", 'h'),
    ("with-filename", 'H'), ("recursive", 'r'), ("extended-regexp", 'E'), ("fixed-strings", 'F'),
    ("basic-regexp", 'G'), ("regexp", 'e'), ("file", 'f'), ("max-count", 'm'),
    ("after-context", 'A'), ("before-context", 'B'), ("context", 'C')], false⟩ 2
    (withBareCount 'C' arguments) fun given => do
    let kind := (given.last? ['E', 'F', 'G', 'P']).getD usual
    let kind := if kind == 'P' then 'E' else kind
    let listed := given.values 'e' ++
      (← readListed (given.values 'f')).flatMap fun octets => octets.lines.map String.ofList
    let isListed := given.has 'e' || given.has 'f'
    if !isListed && given.operands.isEmpty then
      complain 2 ("Usage: grep [OPTION]... PATTERNS [FILE]...\n" ++
        "Try 'grep --help' for more information.")
    else
      let texts := if isListed then listed else given.operands.take 1
      let operands := if isListed then given.operands else given.operands.drop 1
      let patterns := searchPatterns given kind texts
      let descends := given.has 'r' || given.has 'R'
      if patterns.length < (texts.flatMap fun text => text.splitOn "\n").length then
        complain 2 "grep: Invalid regular expression"
      else
        let paths := if !operands.isEmpty then operands else if descends then ["."] else ["-"]
        let names := !given.has 'h' && (given.has 'H' || descends || paths.length > 1)
        let mut any := false
        for path in paths do
          match ← readPath path with
          | .ok octets =>
            let shown := if path == "-" then "(standard input)" else path
            any := (← searchFile given patterns (if names then some shown else none) shown
              octets) || any
          | .error cause =>
            match cause, descends, (← place).get? (spelled path) with
            | .isFolder, true, some (.folder entries) =>
              for (inner, octets) in filesBelow 100 path entries do
                let inner := if operands.isEmpty then (inner.drop 2).toString else inner
                any := (← searchFile given patterns (if names then some inner else none) inner
                  octets) || any
            | _, _, _ =>
              if given.has 's' then quit 2
              else complain 2 ("grep: " ++ path ++ ": " ++ Place.wording cause)
        let status := (← get).status
        let ends :=
          if any && (status = 0 || given.has 'q') then 0 else max status (if any then 0 else 1)
        modify fun work => { work with status := ends }
where
  /-- The files that list patterns. -/
  readListed (paths : List String) : Working (List Octets) := do
    return (← if paths.isEmpty then pure [] else readAll "grep" 2 paths).map (·.2)

end Scriptlet.Shell
