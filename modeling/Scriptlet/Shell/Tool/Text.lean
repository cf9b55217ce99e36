import Scriptlet.Shell.Tool.Basic

/-!
# Tools that pass texts on

Tools that write what they read, or a part of it, line by line: joined, numbered, counted, turned
around or cut at one end.
-/

namespace Scriptlet.Shell

open Working

/-- An octet as it is shown where control characters are made visible. -/
def shownOctet (showsTabs : Bool) (c : Char) : Octets :=
  if c == '\t' then if showsTabs then "^I".toList else [c]
  else
    let (front, low) := if c.toNat < 128 then ([], c.toNat) else ("M-".toList, c.toNat - 128)
    front ++ if low < 32 then ['^', Char.ofNat (low + 64)] else if low = 127 then "^?".toList
      else [Char.ofNat low]

/-- A piece without its line end, and the line end. -/
def splitPiece (piece : Octets) : Octets × Octets :=
  if piece.getLast? == some '\n' then (piece.dropLast, ['\n']) else (piece, [])

/-- Pieces of which several empty ones in a row are one. -/
def squeezeEmpty : List Octets → List Octets
  | ['\n'] :: ['\n'] :: rest => squeezeEmpty (['\n'] :: rest)
  | piece :: rest => piece :: squeezeEmpty rest
  | [] => []

/-- Joins files, with numbers or visible characters if that is asked for. -/
def joinFiles (arguments : List String) : Working Unit :=
  withGiven ⟨"cat", "AbeEnstTuv", "", [("number", 'n'), ("number-nonblank", 'b'),
    ("squeeze-blank", 's'), ("show-ends", 'E'), ("show-tabs", 'T'), ("show-all", 'A'),
    ("show-nonprinting", 'v')], false⟩ 1 arguments fun given => do
    let octets ← readJoined "cat" 1 given.operands
    let hasAny (letters : String) : Bool := letters.toList.any given.has
    if given.options.isEmpty then write octets
    else
      let pieces := if given.has 's' then squeezeEmpty octets.pieces else octets.pieces
      let mut number := 0
      for piece in pieces do
        let (line, ending) := splitPiece piece
        if hasAny "bn" && !(given.has 'b' && line.isEmpty && !ending.isEmpty) then
          number := number + 1
          writeText (padLeft 6 (toString number) ++ "\t")
        let line :=
          if hasAny "Aetv" then line.flatMap (shownOctet (hasAny "AtT"))
          else if given.has 'T' then
            line.flatMap fun c => if c == '\t' then "^I".toList else [c]
          else line
        write (line ++ (if hasAny "AeE" && !ending.isEmpty then ['$'] else []) ++ ending)

/-- Arguments of which the first one may be a number with a sign, which stands for the option with
a letter. -/
def withBareCount (letter : Char) : List String → List String
  | [] => []
  | word :: rest =>
    match word.toList with
    | '-' :: digits@(_ :: _) =>
      if digits.all Char.isDigit then String.ofList ('-' :: letter :: digits) :: rest
      else word :: rest
    | _ => word :: rest

/-- How many items are kept at an end: so many of them, or all but so many at the other end. -/
structure Portion where
  count : Nat
  fromOther : Bool

/-- The items that a portion keeps at the beginning. -/
def Portion.atStart {α : Type} (portion : Portion) (items : List α) : List α :=
  items.take (if portion.fromOther then items.length - portion.count else portion.count)

/-- The items that a portion keeps at the end. Counted from the other end, the first one of them is
named. -/
def Portion.atEnd {α : Type} (portion : Portion) (items : List α) : List α :=
  items.drop (if portion.fromOther then portion.count - 1 else items.length - portion.count)

/-- The portion that a text spells, where a sign counts from the other end. -/
def portion? (sign : Char) (text : String) : Option Portion :=
  match text.toList with
  | c :: rest =>
    if c == sign then (amount? (String.ofList rest)).map (⟨·, true⟩)
    else if c == '-' || c == '+' then (amount? (String.ofList rest)).map (⟨·, false⟩)
    else (amount? text).map (⟨·, false⟩)
  | [] => none

/-- Keeps one end of files. -/
def keepEnd (tool : String) (sign : Char)
    (keep : {α : Type} → Portion → List α → List α) (arguments : List String) : Working Unit :=
  withGiven ⟨tool, "qvzfF", "nc", [("lines", 'n'), ("bytes", 'c'), ("quiet", 'q'),
    ("silent", 'q'), ("verbose", 'v')], false⟩ 1 (withBareCount 'n' arguments) fun given => do
    let byOctet := given.last? ['n', 'c'] == some 'c'
    let text := ((given.last? ['n', 'c']).bind given.value?).getD "10"
    match portion? sign text with
    | none =>
      let unit := if byOctet then "bytes" else "lines"
      complain 1 (tool ++ ": invalid number of " ++ unit ++ ": '" ++ text ++ "'")
    | some portion =>
      let paths := if given.operands.isEmpty then ["-"] else given.operands
      let shows := given.has 'v' || (paths.length > 1 && !given.has 'q')
      let mut first := true
      for path in paths do
        match ← readPath path with
        | .error .isFolder =>
          if shows then
            writeText ((if first then "" else "\n") ++ "==> " ++ path ++ " <==\n")
            first := false
          complain 1 (tool ++ ": error reading '" ++ path ++ "': Is a directory")
        | .error cause =>
          complain 1 (tool ++ ": cannot open '" ++ path ++ "' for reading: " ++ Place.wording cause)
        | .ok octets =>
          if shows then
            let name := if path == "-" then "standard input" else path
            writeText ((if first then "" else "\n") ++ "==> " ++ name ++ " <==\n")
            first := false
          let kept := if byOctet then keep portion octets else (keep portion octets.pieces).flatten
          write kept
          if isInput path && sign == '-' then giveBack (octets.drop kept.length)

/-- What can be counted in octets: lines, words, characters, bytes, and the longest line. -/
def tallies (octets : Octets) : List (Char × Nat) :=
  let words := (octets.splitBy fun left right => isBlankOctet left == isBlankOctet right).filter
    fun run => run.head?.any fun c => !isBlankOctet c
  let longest := (octets.lines.map List.length).foldl max 0
  [('l', octets.count '\n'), ('w', words.length), ('m', octets.length), ('c', octets.length),
    ('L', longest)]

/-- Counts lines, words and bytes of files. -/
def countFiles (arguments : List String) : Working Unit :=
  withGiven ⟨"wc", "clmwL", "", [("lines", 'l'), ("words", 'w'), ("bytes", 'c'), ("chars", 'm'),
    ("max-line-length", 'L')], false⟩ 1 arguments fun given => do
    let letters := if given.options.isEmpty then ['l', 'w', 'c'] else given.options.map (·.1)
    let windsBack := (← get).windsBack
    let paths := if given.operands.isEmpty then ["-"] else given.operands
    let mut found := #[]
    let mut allFiles := true
    let mut total := 0
    for path in paths do
      match ← readPath path with
      | .ok octets =>
        found := found.push (path, octets)
        if isInput path && !windsBack then allFiles := false
        else total := total + octets.length
      | .error cause =>
        complain 1 ("wc: " ++ path ++ ": " ++ Place.wording cause)
        if cause = .isFolder then
          allFiles := false
          found := found.push (path, [])
    let shown := (tallies []).filter fun tally => letters.contains tally.1
    let width :=
      if paths.length = 1 && shown.length = 1 then 1
      else max (toString total).length (if allFiles then 1 else 7)
    let line (counts : List (Char × Nat)) (name : String) : Working Unit :=
      let numbers := (counts.filter fun tally => letters.contains tally.1).map fun tally =>
        padLeft width (toString tally.2)
      writeText (" ".intercalate (numbers ++ if name == "" then [] else [name]) ++ "\n")
    for (path, octets) in found do
      line (tallies octets) (if given.operands.isEmpty then "" else path)
    if paths.length > 1 then
      let all := found.toList.map fun entry => tallies entry.2
      line (all.foldl (fun sums counts => (sums.zip counts).map fun (sum, count) =>
        (sum.1, if sum.1 == 'L' then max sum.2 count.2 else sum.2 + count.2)) (tallies [])) "total"

/-- Turns the order of lines around. -/
def turnLines (arguments : List String) : Working Unit :=
  withGiven ⟨"tac", "", "", [], false⟩ 1 arguments fun given => do
    for (_, octets) in ← readAll "tac" 1 given.operands do
      write octets.pieces.reverse.flatten

/-- Turns the order of the characters of lines around. -/
def turnCharacters (arguments : List String) : Working Unit :=
  withGiven ⟨"rev", "", "", [], false⟩ 1 arguments fun given => do
    let octets ← readJoined "rev" 1 given.operands
    for piece in octets.pieces do
      let (line, ending) := splitPiece piece
      write (line.reverse ++ ending)

/-- Numbers lines. -/
def numberLines (arguments : List String) : Working Unit :=
  withGiven ⟨"nl", "p", "bwsvin", [], false⟩ 1 arguments fun given => do
    let octets ← readJoined "nl" 1 given.operands
    let width := ((given.value? 'w').bind count?).getD 6
    let separator := (given.value? 's').getD "\t"
    let step := ((given.value? 'i').bind count?).getD 1
    let style := (given.value? 'b').getD "t"
    let mut number := ((given.value? 'v').bind count?).getD 1
    for line in octets.lines do
      if style == "a" || (style == "t" && !line.isEmpty) then
        let digits := toString number
        let text := match given.value? 'n' with
          | some "ln" => digits.pushn ' ' (width - digits.length)
          | some "rz" => "".pushn '0' (width - digits.length) ++ digits
          | _ => padLeft width digits
        write ((text ++ separator).toList ++ line ++ ['\n'])
        number := number + step
      else write (List.replicate (width + separator.length) ' ' ++ line ++ ['\n'])

/-- The characters that a list of separators stands for. -/
def separatorsOf : List Char → List Octets
  | '\\' :: 'n' :: rest => ['\n'] :: separatorsOf rest
  | '\\' :: 't' :: rest => ['\t'] :: separatorsOf rest
  | '\\' :: '0' :: rest => [] :: separatorsOf rest
  | '\\' :: '\\' :: rest => ['\\'] :: separatorsOf rest
  | c :: rest => [c] :: separatorsOf rest
  | [] => []

/-- Cells with separators between them, which are used in turn. -/
def joinCells (separators : List Octets) (cells : List Octets) : Octets :=
  (cells.zipIdx.map fun (cell, index) =>
    if index = 0 then cell
    else ((separators[(index - 1) % max 1 separators.length]?).getD []) ++ cell).flatten

/-- Sets lines of files side by side, or all lines of a file. -/
def pasteFiles (arguments : List String) : Working Unit :=
  withGiven ⟨"paste", "s", "d", [("serial", 's'), ("delimiters", 'd')], false⟩ 1 arguments
    fun given => do
    let separators := separatorsOf ((given.value? 'd').getD "\t").toList
    let paths := if given.operands.isEmpty then ["-"] else given.operands
    let inputs := paths.countP isInput
    let files ← readAll "paste" 1 paths
    let shared := ((files.find? fun file => isInput file.1).map fun file => file.2.lines).getD []
    let mut columns : Array (List Octets) := #[]
    let mut taken := 0
    for (path, octets) in files do
      if isInput path && !given.has 's' then
        let own := shared.zipIdx.filter fun (_, index) => index % inputs = taken
        columns := columns.push (own.map (·.1))
        taken := taken + 1
      else columns := columns.push octets.lines
    if given.has 's' then
      for column in columns do writeLine (joinCells separators column)
    else
      let height := (columns.map List.length).foldl max 0
      for row in List.range height do
        writeLine (joinCells separators (columns.toList.map fun column => column[row]?.getD []))

/-- A line cut into parts of a width, at blanks if that is asked for. -/
def folded (bound width : Nat) (atBlanks : Bool) (line : Octets) : List Octets :=
  match bound with
  | 0 => [line]
  | bound + 1 =>
    if line.length ≤ width then [line]
    else
      let front := line.take width
      let upToBlank := (front.reverse.dropWhile (· != ' ')).reverse
      let part := if atBlanks && !upToBlank.isEmpty then upToBlank else front
      part :: folded bound width atBlanks (line.drop part.length)

/-- Folds long lines. -/
def foldLines (arguments : List String) : Working Unit :=
  withGiven ⟨"fold", "sb", "w", [("width", 'w'), ("spaces", 's'), ("bytes", 'b')], false⟩ 1
    arguments fun given => do
    let width := max 1 (((given.value? 'w').bind count?).getD 80)
    for piece in (← readJoined "fold" 1 given.operands).pieces do
      let (line, ending) := splitPiece piece
      write (['\n'].intercalate (folded (line.length + 1) width (given.has 's') line) ++ ending)

/-- Passes the input on and keeps it in files too. -/
def passOn (arguments : List String) : Working Unit :=
  withGiven ⟨"tee", "aip", "", [("append", 'a')], false⟩ 1 arguments fun given => do
    let input ← takeInput
    for path in given.operands do
      let place ← place
      let old := if given.has 'a' then (place.read (spelled path)).toOption.getD [] else []
      change (fun cause => "tee: " ++ path ++ ": " ++ Place.wording cause)
        (place.write (spelled path) (old ++ input))
    write input

/-- Tells which lines of two sorted files are in the first one, the second one, or both. -/
def compareLines (bound : Nat) (left right : List Octets) : List (Nat × Octets) :=
  match bound with
  | 0 => []
  | bound + 1 =>
    match left, right with
    | [], right => right.map (2, ·)
    | left, [] => left.map (1, ·)
    | first :: lefts, second :: rights =>
      if first == second then (3, first) :: compareLines bound lefts rights
      else if first < second then (1, first) :: compareLines bound lefts right
      else (2, second) :: compareLines bound left rights

/-- Writes the lines of two sorted files in columns. -/
def compareFiles (arguments : List String) : Working Unit :=
  withGiven ⟨"comm", "123", "", [], false⟩ 1 arguments fun given => do
    match ← readAll "comm" 1 given.operands with
    | [(_, left), (_, right)] =>
      let hidden (column : Nat) : Bool := given.has (Char.ofNat (48 + column))
      let lines := compareLines (left.length + right.length + 1) left.lines right.lines
      for (column, line) in lines do
        if !hidden column then
          let tabs := (List.range (column - 1)).countP fun before => !hidden (before + 1)
          writeLine (List.replicate tabs '\t' ++ line)
    | _ => complain 1 "comm: missing operand"

end Scriptlet.Shell
