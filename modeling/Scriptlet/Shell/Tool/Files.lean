import Scriptlet.Shell.Pattern
import Scriptlet.Shell.Tool.Basic

/-!
# Tools for files

Listing, making, removing, copying and moving files and folders, and finding them in a tree.
-/

namespace Scriptlet.Shell

namespace Place

/-- The place with a file that is a program or not. -/
def setProgram (place : Place) (way : List String) (runs : Bool) : Place :=
  let others := place.programs.filter (· != way)
  { place with programs := if runs then way :: others else others }

/-- Puts a copy of what stands at the end of a way at the end of another one. What stands in a
folder there already stays if nothing in the copy takes its place. -/
def copyTo (bound : Nat) (place : Place) (source target : List String) : Except PathError Place :=
  match bound with
  | 0 => .error .nameTooLong
  | bound + 1 =>
    match place.nodeAt? source, place.nodeAt? target with
    | none, _ => .error .notFound
    | some (.file _), some (.folder _) => .error .isFolder
    | some (.file bytes), _ =>
      if (place.nodeAt? target.dropLast).any fun node => match node with
        | .folder _ => true
        | .file _ => false
      then .ok ((place.putAt target (.file bytes)).setProgram target
        (place.programs.contains source))
      else .error .notFound
    | some (.folder _), some (.file _) => .error .notFolder
    | some (.folder entries), found =>
      let place := if found.isSome then place else place.putAt target (.folder [])
      entries.foldlM (fun place entry =>
        copyTo bound place (source ++ [entry.1]) (target ++ [entry.1])) place

/-- Moves what stands at the end of a way to the end of another one. -/
def moveTo (place : Place) (source target : List String) : Except PathError Place := do
  let runs := place.programs.contains source
  match place.nodeAt? source, place.nodeAt? target, place.nodeAt? target.dropLast with
  | none, _, _ => throw .notFound
  | some (.file _), some (.folder _), _ => throw .isFolder
  | some (.folder _), some (.file _), _ => throw .notFolder
  | some _, some (.folder (_ :: _)), _ => throw .isFolder
  | some node, _, some (.folder _) =>
    return (((place.eraseAt source).setProgram source false).putAt target node).setProgram target
      runs
  | _, _, _ => throw .notFound

end Place

open Working

/-- The way that a path describes. -/
def wayOf (path : String) : Working (Except PathError (List String)) := do
  return (← place).resolve (spelled path)

/-- A path with a name behind it. -/
def below (path name : String) : String :=
  (if path.endsWith "/" then path else path ++ "/") ++ name

/-- The mark behind the name of a folder or of a program. -/
def kindMark (given : Given) (place : Place) (way : List String) : String :=
  if !given.has 'F' && !given.has 'p' then ""
  else
    match place.nodeAt? way with
    | some (.folder _) => "/"
    | _ => if given.has 'F' && place.canRunAt way then "*" else ""

/-- Lists the names in a folder, and in the folders in it if that is asked for. -/
def listFolder (bound : Nat) (given : Given) (shows : Bool) (first : Bool) (path : String)
    (way : List String) : Working Unit :=
  match bound with
  | 0 => return
  | bound + 1 => do
    let place ← place
    let names := place.namesAt way
    let visible := names.filter fun name =>
      given.has 'a' || given.has 'A' || !name.startsWith "."
    let dots := if given.has 'a' then [".", ".."] else []
    let all := (dots ++ visible).mergeSort
    let all := if given.has 'r' then all.reverse else all
    if shows then writeText ((if first then "" else "\n") ++ path ++ ":\n")
    let lines := all.map fun name =>
      let mark := if dots.contains name then
          if given.has 'F' || given.has 'p' then "/" else ""
        else kindMark given place (way ++ [name])
      wordOf name ++ mark
    if given.has 'm' then
      if !lines.isEmpty then writeText (", ".intercalate lines ++ "\n")
    else writeText (String.join (lines.map (· ++ "\n")))
    if given.has 'R' then
      for name in if given.has 'r' then visible.reverse else visible do
        match place.nodeAt? (way ++ [name]) with
        | some (.folder _) =>
          listFolder bound given true false (below path (wordOf name)) (way ++ [name])
        | _ => pure ()

/-- Lists files and folders. -/
def listFiles (arguments : List String) : Working Unit :=
  withGiven ⟨"ls", "1aAdrRFpmCxqbNQ", "", [("all", 'a'), ("almost-all", 'A'), ("directory", 'd'),
    ("reverse", 'r'), ("recursive", 'R'), ("classify", 'F')], false⟩ 2 arguments fun given => do
    let paths := if given.operands.isEmpty then ["."] else given.operands
    let place ← place
    let mut files := #[]
    let mut folders := #[]
    for path in paths.mergeSort do
      match place.resolve (spelled path) with
      | .error cause => complain 2 ("ls: cannot access '" ++ path ++ "': " ++ Place.wording cause)
      | .ok way =>
        match place.nodeAt? way with
        | none => complain 2 ("ls: cannot access '" ++ path ++ "': No such file or directory")
        | some (.folder _) =>
          if given.has 'd' then files := files.push (path, way)
          else folders := folders.push (path, way)
        | some (.file _) => files := files.push (path, way)
    let inOrder (found : Array (String × List String)) : List (String × List String) :=
      if given.has 'r' then found.toList.reverse else found.toList
    writeText (String.join ((inOrder files).map fun (path, way) =>
      path ++ kindMark given place way ++ "\n"))
    let mut first := files.isEmpty
    for (path, way) in inOrder folders do
      listFolder 100 given (paths.length > 1 || given.has 'R') first path way
      first := false

/-- Removes files and folders. -/
def removeFiles (arguments : List String) : Working Unit :=
  withGiven ⟨"rm", "dfiIrRv", "", [("force", 'f'), ("recursive", 'r'), ("dir", 'd'),
    ("verbose", 'v')], false⟩ 1 arguments fun given => do
    let descends := given.has 'r' || given.has 'R'
    if given.operands.isEmpty && !given.has 'f' then
      complain 1 "rm: missing operand\nTry 'rm --help' for more information."
    for path in given.operands do
      let refuse (cause : String) := complain 1 ("rm: cannot remove '" ++ path ++ "': " ++ cause)
      let place ← place
      match place.resolve (spelled path) with
      | .error cause => if !given.has 'f' then refuse (Place.wording cause)
      | .ok way =>
        let steps := (path.splitOn "/").filter (· != "")
        let isSelf := steps.getLast? == some "." || steps.getLast? == some ".." || way.isEmpty
        match place.nodeAt? way with
        | none => if !given.has 'f' then refuse "No such file or directory"
        | some node =>
          let mayGo := match node with
            | .file _ => true
            | .folder entries => descends || (given.has 'd' && entries.isEmpty)
          if !mayGo then refuse "Is a directory"
          else if isSelf then
            complain 1 ("rm: refusing to remove '.' or '..' directory: skipping '" ++ path ++ "'")
          else
            modify fun work => { work with place := place.removeAt way }
            if given.has 'v' then writeText ("removed '" ++ path ++ "'\n")

/-- The ways to all folders on a way, the outermost first. -/
def waysTo (way : List String) : List (List String) :=
  (List.range way.length).map fun count => way.take (count + 1)

/-- Makes folders. -/
def makeFolders (arguments : List String) : Working Unit :=
  withGiven ⟨"mkdir", "pv", "m", [("parents", 'p'), ("verbose", 'v'), ("mode", 'm')], false⟩ 1
    arguments fun given => do
    if given.operands.isEmpty then
      complain 1 "mkdir: missing operand\nTry 'mkdir --help' for more information."
    for path in given.operands do
      let refuse (cause : String) :=
        complain 1 ("mkdir: cannot create directory '" ++ path ++ "': " ++ cause)
      let made : Working Unit := if given.has 'v' then
          writeText ("mkdir: created directory '" ++ path ++ "'\n") else pure ()
      let place ← place
      let trimmed := String.ofList (path.toList.reverse.dropWhile (· == '/')).reverse
      if given.has 'p' then
        let steps := (Folder.steps (spelled path)).filter fun step => step != "" && step != "."
        let way := if path.startsWith "/" then steps else place.here ++ steps
        let ways := waysTo (way.foldl (fun (way : List String) step =>
          if step == ".." then way.dropLast else way ++ [step]) [])
        if ways.any fun way => match place.nodeAt? way with
          | some (.file _) => true
          | _ => false
        then refuse "File exists"
        else
          let place := ways.foldl (fun (place : Place) way =>
            if (place.nodeAt? way).isSome then place else place.putAt way (.folder [])) place
          modify fun work => { work with place }
      else
        match place.resolve (spelled (if trimmed == "" then path else trimmed)) with
        | .error cause => refuse (Place.wording cause)
        | .ok way =>
          match place.nodeAt? way, place.nodeAt? way.dropLast with
          | some _, _ => refuse "File exists"
          | none, some (.folder _) =>
            modify fun work => { work with place := place.putAt way (.folder []) }
            made
          | none, _ => refuse "No such file or directory"

/-- Removes empty folders. -/
def removeFolders (arguments : List String) : Working Unit :=
  withGiven ⟨"rmdir", "pv", "", [("parents", 'p'), ("verbose", 'v')], false⟩ 1 arguments
    fun given => do
    for path in given.operands do
      let steps := (path.splitOn "/").filter (· != "")
      let counts := if given.has 'p' then List.range steps.length else [0]
      for count in counts do
        let path := if count = 0 then path else "/".intercalate (steps.take (steps.length - count))
        let refuse (cause : String) :=
          complain 1 ("rmdir: failed to remove '" ++ path ++ "': " ++ cause)
        let place ← place
        match place.resolve (spelled path) with
        | .error cause => refuse (Place.wording cause)
        | .ok way =>
          match place.nodeAt? way with
          | some (.folder []) => modify fun work => { work with place := place.eraseAt way }
          | some (.folder _) => refuse "Directory not empty"
          | some (.file _) => refuse "Not a directory"
          | none => refuse "No such file or directory"

/-- Makes empty files where nothing stands. -/
def touchFiles (arguments : List String) : Working Unit :=
  withGiven ⟨"touch", "acmf", "dtr", [("no-create", 'c'), ("date", 'd'), ("reference", 'r')],
    false⟩ 1 arguments fun given => do
    if given.operands.isEmpty then
      complain 1 "touch: missing file operand\nTry 'touch --help' for more information."
    for path in given.operands do
      let refuse (cause : String) := complain 1 ("touch: cannot touch '" ++ path ++ "': " ++ cause)
      let place ← place
      match place.resolve (spelled path) with
      | .error cause => refuse (Place.wording cause)
      | .ok way =>
        match place.nodeAt? way, place.nodeAt? way.dropLast with
        | some _, _ => pure ()
        | none, some (.folder _) =>
          if !given.has 'c' then
            modify fun work => { work with place := place.putAt way (.file []) }
        | none, _ => refuse "No such file or directory"

/-- Copies or moves a file or a folder. -/
def transferFile (moves : Bool) (given : Given) (source target : String) : Working Unit := do
  let tool := if moves then "mv" else "cp"
  let place ← place
  let descends := moves || given.has 'r' || given.has 'R' || given.has 'a'
  let name := lastName source
  let target := if place.hasFolder (spelled target) && !given.has 'T' then below target name
    else target
  match place.resolve (spelled source), place.resolve (spelled target) with
  | .error cause, _ =>
    complain 1 (tool ++ ": cannot stat '" ++ source ++ "': " ++ Place.wording cause)
  | .ok _, .error cause =>
    complain 1 (tool ++ ": cannot create regular file '" ++ target ++ "': " ++ Place.wording cause)
  | .ok old, .ok new =>
    match place.nodeAt? old with
    | none => complain 1 (tool ++ ": cannot stat '" ++ source ++ "': No such file or directory")
    | some node =>
      let isFolder := match node with
        | .folder _ => true
        | .file _ => false
      if isFolder && !descends then
        complain 1 ("cp: -r not specified; omitting directory '" ++ source ++ "'")
      else if old == new then
        complain 1 (tool ++ ": '" ++ source ++ "' and '" ++ target ++ "' are the same file")
      else if isFolder && old.isPrefixOf new then
        complain 1 (tool ++ ": cannot " ++ (if moves then "move '" else "copy a directory, '") ++
          source ++ (if moves then "' to a subdirectory of itself, '" else "', into itself, '") ++
          target ++ "'")
      else if given.has 'n' && (place.nodeAt? new).isSome then return
      else
        let changed := if moves then place.moveTo old new else Place.copyTo 100 place old new
        match changed with
        | .ok place =>
          modify fun work => { work with place }
          if given.has 'v' then
            writeText
              ((if moves then "renamed '" else "'") ++ source ++ "' -> '" ++ target ++ "'\n")
        | .error .isFolder =>
          complain 1 (tool ++ ": cannot overwrite directory '" ++ target ++ "' with non-directory")
        | .error .notFolder =>
          complain 1 (tool ++ ": cannot overwrite non-directory '" ++ target ++
            "' with directory '" ++ source ++ "'")
        | .error cause =>
          complain 1 (tool ++ ": cannot create regular file '" ++ target ++ "': " ++
            Place.wording cause)
where
  /-- The last step of a path. -/
  lastName (path : String) : String := ((path.splitOn "/").filter (· != "")).getLast?.getD path

/-- Copies or moves files to the last of the operands. -/
def transferFiles (moves : Bool) (arguments : List String) : Working Unit :=
  let tool := if moves then "mv" else "cp"
  withGiven ⟨tool, "afinpPrRTuvdL", "t", [("recursive", 'r'), ("force", 'f'), ("verbose", 'v'),
    ("no-clobber", 'n'), ("archive", 'a'), ("target-directory", 't'),
    ("no-target-directory", 'T')], false⟩ 1 arguments fun given => do
    let help := "\nTry '" ++ tool ++ " --help' for more information."
    match given.value? 't', given.operands.reverse with
    | some target, sources =>
      for source in sources.reverse do transferFile moves given source target
    | none, [] => complain 1 (tool ++ ": missing file operand" ++ help)
    | none, [source] =>
      complain 1 (tool ++ ": missing destination file operand after '" ++ source ++ "'" ++ help)
    | none, [target, source] => transferFile moves given source target
    | none, target :: sources =>
      if (← place).hasFolder (spelled target) then
        for source in sources.reverse do transferFile moves given source target
      else complain 1 (tool ++ ": target '" ++ target ++ "': " ++
        (if (← place).hasFile (spelled target) then "Not a directory"
          else "No such file or directory"))

/-- What a mode makes of the property to be a program: it may set it, clear it, or leave it. -/
def programMode? (mode : String) : Option (Option Bool) :=
  if mode != "" && mode.toList.all isOctal then
    some (some (mode.toList.any fun c => digitOf c % 2 = 1))
  else
    let clauses := (mode.splitOn ",").map fun clause =>
      (clause.toList.dropWhile Char.isAlpha).span fun c => c == '+' || c == '-' || c == '='
    if clauses.any fun clause => clause.1.isEmpty then none
    else some (clauses.foldl (fun result (signs, letters) =>
      match signs.getLast?, letters.contains 'x' || letters.contains 'X' with
      | some '+', true => some true
      | some '-', true => some false
      | some '=', runs => some runs
      | _, _ => result) none)

/-- Makes files programs, or takes that from them. -/
def changeModes (arguments : List String) : Working Unit := do
  let words := arguments.filter fun word => !(["-R", "-v", "-f", "-c", "--"].contains word)
  match words with
  | mode :: paths =>
    match programMode? mode with
    | none => complain 1 ("chmod: invalid mode: '" ++ mode ++
        "'\nTry 'chmod --help' for more information.")
    | some runs? =>
      for path in paths do
        let place ← place
        match place.resolve (spelled path) with
        | .error cause =>
          complain 1 ("chmod: cannot access '" ++ path ++ "': " ++ Place.wording cause)
        | .ok way =>
          if (place.nodeAt? way).isNone then
            complain 1 ("chmod: cannot access '" ++ path ++ "': No such file or directory")
          else
            match runs? with
            | some runs => modify fun work => { work with place := place.setProgram way runs }
            | none => pure ()
  | [] => complain 1 "chmod: missing operand\nTry 'chmod --help' for more information."

/-- A condition on files in a tree, or something done to those for which all before it holds. -/
inductive FileTest where
  | name (pattern : NamePattern) (folds : Bool)
  | path (pattern : NamePattern)
  | kind (letter : Char)
  | empty
  | size (sign? : Option Char) (octets : Nat)
  | constant (holds : Bool)
  | print
  | delete
  | not (inner : FileTest)
  | both (left right : FileTest)
  | either (left right : FileTest)

namespace FileTest

/-- The pattern of a text. -/
def patternOf (text : String) : NamePattern :=
  NamePattern.ofGlyphs (text.toList.map fun c => ⟨c, false⟩)

/-- The size that a text spells, with the sign in front. -/
def size? (text : String) : Option FileTest :=
  let (sign?, digits) := match text.toList with
    | '+' :: rest => (some '+', rest)
    | '-' :: rest => (some '-', rest)
    | rest => (none, rest)
  let number := digits.takeWhile Char.isDigit
  if number.isEmpty then none
  else
    match digits.drop number.length with
    | ['c'] => some (.size sign? (digitsValue 10 number))
    | _ => none

mutual

/-- The conditions of which one has to hold. -/
def either? (bound : Nat) (words : List String) : Option (FileTest × List String) :=
  match bound with
  | 0 => none
  | bound + 1 => do
    let (left, rest) ← both? bound words
    match rest with
    | "-o" :: rest =>
      let (right, rest) ← either? bound rest
      return (.either left right, rest)
    | rest => return (left, rest)

/-- The conditions that have to hold all. -/
def both? (bound : Nat) (words : List String) : Option (FileTest × List String) :=
  match bound with
  | 0 => none
  | bound + 1 => do
    let (left, rest) ← one? bound words
    match rest with
    | [] | "-o" :: _ | ")" :: _ => return (left, rest)
    | "-a" :: rest =>
      let (right, rest) ← both? bound rest
      return (.both left right, rest)
    | rest =>
      let (right, rest) ← both? bound rest
      return (.both left right, rest)

/-- A single condition. -/
def one? (bound : Nat) (words : List String) : Option (FileTest × List String) :=
  match bound with
  | 0 => none
  | bound + 1 =>
    match words with
    | "!" :: rest | "-not" :: rest => do
      let (inner, rest) ← one? bound rest
      return (.not inner, rest)
    | "(" :: rest => do
      let (inner, rest) ← either? bound rest
      match rest with
      | ")" :: rest => return (inner, rest)
      | _ => none
    | "-name" :: text :: rest => some (.name (patternOf text) false, rest)
    | "-iname" :: text :: rest =>
      some (.name (patternOf (String.ofList (text.toList.map Char.toLower))) true, rest)
    | "-path" :: text :: rest => some (.path (patternOf text), rest)
    | "-type" :: text :: rest => some (.kind (text.toList.headD 'f'), rest)
    | "-size" :: text :: rest => (size? text).map (·, rest)
    | "-empty" :: rest => some (.empty, rest)
    | "-true" :: rest => some (.constant true, rest)
    | "-false" :: rest => some (.constant false, rest)
    | "-print" :: rest => some (.print, rest)
    | "-delete" :: rest => some (.delete, rest)
    | _ => none

end

/-- Whether a test does something by itself. -/
def acts : FileTest → Bool
  | print | delete => true
  | not inner => acts inner
  | both left right | either left right => acts left || acts right
  | _ => false

/-- Applies a test to what stands at the end of a way. -/
def apply (path : String) (way : List String) (node : Node) : FileTest → Working Bool
  | name pattern folds => do
    let last := ((path.splitOn "/").filter (· != "")).getLast?.getD path
    return pattern.covers (if folds then last.toList.map Char.toLower else last.toList)
  | FileTest.path pattern => return pattern.covers path.toList
  | kind letter => return match node with
    | .file _ => letter == 'f'
    | .folder _ => letter == 'd'
  | empty => return match node with
    | .file bytes => bytes.isEmpty
    | .folder entries => entries.isEmpty
  | size sign? octets => return match node with
    | .file bytes =>
      match sign? with
      | some '+' => octets < bytes.length
      | some '-' => bytes.length < octets
      | _ => bytes.length = octets
    | .folder _ => false
  | constant holds => return holds
  | print => do
    writeText (path ++ "\n")
    return true
  | delete => do
    modify fun work => { work with place := work.place.eraseAt way }
    return true
  | not inner => return !(← apply path way node inner)
  | both left right => do
    if ← apply path way node left then apply path way node right else return false
  | either left right => do
    if ← apply path way node left then return true else apply path way node right

end FileTest

/-- Applies a test to all files of a tree, the outer ones first unless they may be deleted. -/
def findBelow (bound : Nat) (test : FileTest) (deepFirst : Bool) (least most : Nat)
    (path : String) (way : List String) : Working Unit :=
  match bound with
  | 0 => return
  | bound + 1 => do
    match (← place).nodeAt? way with
    | none => return
    | some node =>
      let own : Working Unit := do
        if least = 0 then
          let node := ((← place).nodeAt? way).getD node
          let _ ← test.apply path way node
      if !deepFirst then own
      match node with
      | .folder entries =>
        if 0 < most then
          for name in (entries.map (·.1)).mergeSort do
            findBelow bound test deepFirst (least - 1) (most - 1) (below path (wordOf name))
              (way ++ [name])
      | .file _ => pure ()
      if deepFirst then own

/-- Finds files in trees. -/
def findFiles (arguments : List String) : Working Unit := do
  let isTest (word : String) : Bool :=
    (word.startsWith "-" && word != "-") || word == "!" || word == "("
  let paths := arguments.takeWhile fun word => !isTest word
  let words := arguments.drop paths.length
  let rec limits (bound : Nat) (least most : Nat) (words : List String) :
      Nat × Nat × List String :=
    match bound, words with
    | bound + 1, "-maxdepth" :: number :: rest =>
      limits bound least ((count? number).getD 0) rest
    | bound + 1, "-mindepth" :: number :: rest => limits bound ((count? number).getD 0) most rest
    | _, words => (least, most, words)
  let (least, most, words) := limits (words.length + 1) 0 100 words
  let parsed? := if words.isEmpty then some (FileTest.constant true, [])
    else FileTest.either? (4 * (words.length + 2)) words
  match parsed? with
  | some (test, []) =>
    let whole := if test.acts then test else .both test .print
    for path in if paths.isEmpty then ["."] else paths do
      match ← wayOf path with
      | .ok way =>
        if ((← place).nodeAt? way).isSome then
          let outwards := words.contains "-delete" || words.contains "-depth"
          findBelow 100 whole outwards least most path way
        else complain 1 ("find: '" ++ path ++ "': No such file or directory")
      | .error cause => complain 1 ("find: '" ++ path ++ "': " ++ Place.wording cause)
  | _ => complain 1 ("find: unknown predicate \x60" ++ words.headD "" ++ "'")

end Scriptlet.Shell
