import Scriptlet.Shell.Pattern
import Scriptlet.Shell.Tool.Text

/-!
# Tools that sort and pick

Sorting lines by keys, joining equal neighbours, picking parts of lines, and exchanging characters
for others.
-/

namespace Scriptlet.Shell

open Working

/-- How two lines are compared: without blanks in front, by letters and digits, without case, as
numbers, as measures with units, by versions of a text that are no numbers, or the other way
round. -/
structure SortStyle where
  blanks : Bool
  dictionary : Bool
  folded : Bool
  numeric : Bool
  measured : Bool
  reversed : Bool
  deriving DecidableEq

namespace SortStyle

/-- The style that some letters ask for. -/
def ofLetters (letters : List Char) : SortStyle where
  blanks := letters.contains 'b'
  dictionary := letters.contains 'd'
  folded := letters.contains 'f'
  numeric := letters.contains 'n' || letters.contains 'g'
  measured := letters.contains 'h'
  reversed := letters.contains 'r'

/-- The style of lines that are compared as they are. -/
def usual : SortStyle := ofLetters []

end SortStyle

/-- The number that a line begins with: its whole part and its fraction, in units of the last of
sixty decimal places. -/
def leadingNumber (line : Octets) : Int :=
  let chars := line.dropWhile fun c => c == ' ' || c == '\t'
  let (negative, chars) := match chars with
    | '-' :: rest => (true, rest)
    | rest => (false, rest)
  let whole := chars.takeWhile Char.isDigit
  let fraction := match chars.drop whole.length with
    | '.' :: rest => (rest.takeWhile Char.isDigit).take 60
    | _ => []
  let value : Int := digitsValue 10 (whole ++ fraction ++ List.replicate (60 - fraction.length) '0')
  if negative then -value else value

/-- The rank of the unit behind a number. -/
def unitRank (line : Octets) : Nat :=
  let chars := line.dropWhile fun c => c == ' ' || c == '\t' || c == '-'
  let rest := chars.dropWhile fun c => c.isDigit || c == '.'
  match rest.head?.map Char.toUpper with
  | some 'K' => 1
  | some 'M' => 2
  | some 'G' => 3
  | some 'T' => 4
  | some 'P' => 5
  | _ => 0

/-- How two keys compare in a style, the direction aside. -/
def SortStyle.compare (style : SortStyle) (left right : Octets) : Ordering :=
  if style.measured then
    (Ord.compare (unitRank left) (unitRank right)).then
      (Ord.compare (leadingNumber left) (leadingNumber right))
  else if style.numeric then Ord.compare (leadingNumber left) (leadingNumber right)
  else
    let key (line : Octets) : Octets :=
      let line := if style.blanks then line.dropWhile fun c => c == ' ' || c == '\t' else line
      let line := if style.dictionary then
        line.filter fun c => c.isAlphanum || c == ' ' || c == '\t' else line
      if style.folded then line.map Char.toUpper else line
    let left := key left
    let right := key right
    if left < right then .lt else if left == right then .eq else .gt

/-- A key of lines: the fields from one to another, each with the number of a character, and how
they are compared. Without a last field a key goes up to the end. -/
structure SortKey where
  first : Nat × Nat
  last? : Option (Nat × Nat)
  style? : Option SortStyle

/-- The key that a text spells. -/
def SortKey.ofText? (text : String) : Option SortKey := do
  let half (text : String) : Option (Nat × Nat × List Char) :=
    let digits := text.toList.takeWhile Char.isDigit
    let rest := text.toList.drop digits.length
    let (character, rest) := match rest with
      | '.' :: rest => (digitsValue 10 (rest.takeWhile Char.isDigit), rest.dropWhile Char.isDigit)
      | rest => (0, rest)
    if digits.isEmpty || !rest.all Char.isAlpha then none
    else some (digitsValue 10 digits, character, rest)
  match text.splitOn "," with
  | [first] =>
    let (field, character, letters) ← half first
    return ⟨(field, character), none, if letters.isEmpty then none else some (.ofLetters letters)⟩
  | [first, last] =>
    let (field, character, letters) ← half first
    let (lastField, lastCharacter, others) ← half last
    let letters := letters ++ others
    return ⟨(field, character), some (lastField, lastCharacter),
      if letters.isEmpty then none else some (.ofLetters letters)⟩
  | _ => none

/-- The fields of a line, each with what separates it from the one before. -/
def sortFields (separator? : Option Char) (line : Octets) : List Octets :=
  match separator? with
  | some separator => (line.splitOn separator).zipIdx.map fun (field, index) =>
      if index = 0 then field else separator :: field
  | none =>
    (line.splitBy fun left right => !(!isBlank left && isBlank right))
where
  /-- A blank between fields. -/
  isBlank (c : Char) : Bool := c == ' ' || c == '\t'

/-- The part of a line that a key names. -/
def SortKey.of (key : SortKey) (separator? : Option Char) (blanks : Bool) (line : Octets) :
    Octets :=
  let fields := sortFields separator? line
  let bare (index : Nat) (field : Octets) : Octets :=
    match separator? with
    | some _ => if index = 0 then field else field.drop 1
    | none => if blanks then field.dropWhile fun c => c == ' ' || c == '\t' else field
  let startOf (index : Nat) : Nat :=
    let before := (fields.take index).flatten.length
    let field := (fields[index]?).getD []
    before + (field.length - (bare index field).length)
  let first := startOf (key.first.1 - 1) + (key.first.2 - 1)
  let last := match key.last? with
    | none => line.length
    | some (field, 0) => (fields.take field).flatten.length
    | some (field, character) => startOf (field - 1) + character
  (line.take last).drop first

/-- Sorts lines. -/
def sortFiles (arguments : List String) : Working Unit :=
  withGiven ⟨"sort", "bcCdfghinrsumV", "kot", [("numeric-sort", 'n'), ("reverse", 'r'),
    ("unique", 'u'), ("ignore-case", 'f'), ("key", 'k'), ("field-separator", 't'),
    ("output", 'o'), ("stable", 's'), ("check", 'c'), ("human-numeric-sort", 'h'),
    ("general-numeric-sort", 'g'), ("dictionary-order", 'd'),
    ("ignore-leading-blanks", 'b')], false⟩ 2 arguments fun given => do
    let style := SortStyle.ofLetters (given.options.map (·.1))
    let keys := (given.values 'k').filterMap SortKey.ofText?
    let separator? := (given.value? 't').map fun text =>
      if text == "\\0" then '\x00' else text.toList.headD '\t'
    let directed (style : SortStyle) (order : Ordering) : Ordering :=
      if style.reversed then order.swap else order
    let byKeys (left right : Octets) : Ordering :=
      if keys.isEmpty then directed style (style.compare left right)
      else keys.foldl (fun order key =>
        let own := key.style?.getD style
        order.then (directed own (own.compare (key.of separator? own.blanks left)
          (key.of separator? own.blanks right)))) .eq
    let isPlain := keys.isEmpty && { style with reversed := false } = SortStyle.usual
    let whole (left right : Octets) : Ordering :=
      let order := byKeys left right
      if given.has 'u' || given.has 's' || isPlain then order
      else order.then (directed ⟨false, false, false, false, false, style.reversed⟩
        (SortStyle.usual.compare left right))
    let files ← readAll "sort" 2 given.operands
    let lines := files.flatMap fun file => file.2.lines
    if given.has 'c' || given.has 'C' then
      let isBad (left right : Octets) : Bool :=
        let order := whole left right
        order == .gt || (given.has 'u' && order == .eq)
      let neighbours := (lines.zip (lines.drop 1)).zipIdx
      let bad := neighbours.find? fun ((left, right), _) => isBad left right
      match bad with
      | none => quit 0
      | some ((_, line), index) =>
        if given.has 'C' then quit 1
        else
          let path := (given.operands.head?).getD "-"
          complain 1 ("sort: " ++ path ++ ":" ++ toString (index + 2) ++ ": disorder: " ++
            String.ofList line)
    else
      let sorted := lines.mergeSort fun left right => whole left right != .gt
      let unique := if given.has 'u' then
          sorted.splitBy (fun left right => byKeys left right == .eq) |>.filterMap List.head?
        else sorted
      let octets := Octets.ofLines unique
      match given.value? 'o' with
      | none => write octets
      | some path =>
        change (fun cause => "sort: open failed: " ++ path ++ ": " ++ Place.wording cause)
          ((← place).write (spelled path) octets)

/-- Joins equal neighbours among lines. -/
def joinEqual (arguments : List String) : Working Unit :=
  withGiven ⟨"uniq", "cdDiuz", "fsw", [("count", 'c'), ("repeated", 'd'), ("unique", 'u'),
    ("ignore-case", 'i'), ("skip-fields", 'f'), ("skip-chars", 's'), ("check-chars", 'w')], false⟩ 1
    arguments fun given => do
    let number (letter : Char) : Option Nat := (given.value? letter).bind count?
    let rec withoutFields (count : Nat) (line : Octets) : Octets :=
      match count with
      | 0 => line
      | count + 1 => withoutFields count
          ((line.dropWhile fun c => c == ' ' || c == '\t').dropWhile fun c =>
            !(c == ' ' || c == '\t'))
    let key (line : Octets) : Octets :=
      let line := (withoutFields ((number 'f').getD 0) line).drop ((number 's').getD 0)
      let line := match number 'w' with
        | some count => line.take count
        | none => line
      if given.has 'i' then line.map Char.toLower else line
    let octets ← readJoined "uniq" 1 (given.operands.take 1)
    let runs := octets.lines.splitBy fun left right => key left == key right
    let lines := runs.flatMap fun run =>
      let shown := if given.has 'D' then if run.length > 1 then run else []
        else if (given.has 'd' && run.length = 1) || (given.has 'u' && run.length > 1) then []
        else run.take 1
      if given.has 'c' then
        shown.map fun line => (padLeft 7 (toString run.length) ++ " ").toList ++ line
      else shown
    match given.operands[1]? with
    | none => write (Octets.ofLines lines)
    | some path =>
      change (fun cause => "uniq: " ++ path ++ ": " ++ Place.wording cause)
        ((← place).write (spelled path) (Octets.ofLines lines))

/-- The ranges of numbers that a list spells, each from one number to another. A range may lack its
beginning or its end. -/
def rangesOf? (text : String) : Option (List (Nat × Option Nat)) :=
  (text.splitOn ",").mapM fun range =>
    match range.splitOn "-" with
    | [single] => (count? single).bind fun n => if n = 0 then none else some (n, some n)
    | ["", ""] => none
    | ["", last] => (count? last).map fun n => (1, some n)
    | [first, ""] => (count? first).bind fun n => if n = 0 then none else some (n, none)
    | [first, last] => do
      let low ← count? first
      let high ← count? last
      if low = 0 || high < low then none else return (low, some high)
    | _ => none

/-- Whether a number is in one of some ranges. -/
def isInRanges (ranges : List (Nat × Option Nat)) (n : Nat) : Bool :=
  ranges.any fun (low, high?) => low ≤ n && high?.all (n ≤ ·)

/-- Keeps parts of lines. -/
def cutLines (arguments : List String) : Working Unit :=
  withGiven ⟨"cut", "snCz", "bcdfO", [("bytes", 'b'), ("characters", 'c'), ("fields", 'f'),
    ("delimiter", 'd'), ("only-delimited", 's'), ("complement", 'C'),
    ("output-delimiter", 'O')], false⟩ 1 arguments fun given => do
    let list? := given.last? ['b', 'c', 'f']
    match list?.bind given.value?, list? with
    | some list, some kind =>
      match rangesOf? list with
      | none => complain 1 ("cut: invalid field value '" ++ list ++
          "'\nTry 'cut --help' for more information.")
      | some ranges =>
        let keeps (index : Nat) : Bool := isInRanges ranges (index + 1) != given.has 'C'
        let octets ← readJoined "cut" 1 given.operands
        let separator := ((given.value? 'd').bind fun text => text.toList.head?).getD '\t'
        let joint := ((given.value? 'O').map String.toList).getD [separator]
        for line in octets.lines do
          if kind == 'f' then
            if line.contains separator then
              let fields := (line.splitOn separator).zipIdx.filter fun (_, index) => keeps index
              writeLine (joint.intercalate (fields.map (·.1)))
            else if !given.has 's' then writeLine line
          else writeLine ((line.zipIdx.filter fun (_, index) => keeps index).map (·.1))
    | _, _ => complain 1 ("cut: you must specify a list of bytes, characters, or fields\n" ++
        "Try 'cut --help' for more information.")

/-- A member of a set of characters: some of them, or one that is repeated as often as needed. -/
inductive SetPart where
  | these (chars : List Char)
  | filling (c : Char)

/-- The characters with some numbers. -/
def charsBetween (low high : Nat) : List Char :=
  (List.range (high + 1 - low)).map fun n => Char.ofNat (low + n)

/-- The character that a set begins with, where a backslash escapes, and what follows it. -/
def setChar? : List Char → Option (Char × List Char)
  | [] => none
  | '\\' :: c :: rest =>
    let digits := ((c :: rest).takeWhile isOctal).take 3
    if !digits.isEmpty then
      some (Char.ofNat (digitsValue 8 digits % 256), (c :: rest).drop digits.length)
    else
      let found := match c with
        | 'a' => '\x07'
        | 'b' => '\x08'
        | 'f' => '\x0c'
        | 'n' => '\n'
        | 'r' => '\x0d'
        | 't' => '\t'
        | 'v' => '\x0b'
        | c => c
      some (found, rest)
  | c :: rest => some (c, rest)

/-- The members of a set of characters: ranges, named kinds, repetitions and single ones. -/
def setParts (bound : Nat) (chars : List Char) : List SetPart :=
  match bound with
  | 0 => []
  | bound + 1 =>
    let named? : Option (SetPart × List Char) := match chars with
      | '[' :: ':' :: rest =>
        let name := String.ofList (rest.takeWhile Char.isAlpha)
        match rest.drop name.length with
        | ':' :: ']' :: behind =>
          if kindNames.contains name then
            some (.these ((charsBetween 0 255).filter (isOfKind name)), behind)
          else none
        | _ => none
      | '[' :: '=' :: c :: '=' :: ']' :: behind => some (.these [c], behind)
      | '[' :: rest =>
        match setChar? rest with
        | some (c, '*' :: behind) =>
          let digits := behind.takeWhile Char.isDigit
          match behind.drop digits.length with
          | ']' :: behind =>
            let base := if digits.head? == some '0' then 8 else 10
            let count := digitsValue base digits
            some (if count = 0 then .filling c else .these (List.replicate count c), behind)
          | _ => none
        | _ => none
      | _ => none
    match named? with
    | some (part, rest) => part :: setParts bound rest
    | none =>
      match setChar? chars with
      | none => []
      | some (low, '-' :: rest) =>
        match setChar? rest with
        | some (high, behind) =>
          .these (charsBetween low.toNat high.toNat) :: setParts bound behind
        | none => [.these [low, '-']]
      | some (c, rest) => .these [c] :: setParts bound rest

/-- The characters of a set, made as long as asked for where one of them is repeated. -/
def setChars (length : Nat) (text : String) : List Char :=
  let parts := setParts (text.length + 1) text.toList
  let size := parts.foldl (fun size part =>
    match part with
    | .these chars => size + chars.length
    | .filling _ => size) 0
  parts.flatMap fun
    | .these chars => chars
    | .filling c => List.replicate (length - size) c

/-- The first of equal neighbours that are in a set. -/
def squeezed (isIn : Char → Bool) (octets : Octets) : Octets :=
  (octets.foldl (fun (found : Octets) c =>
    if found.head? == some c && isIn c then found else c :: found) []).reverse

/-- Exchanges characters for others, or takes them out. -/
def exchange (arguments : List String) : Working Unit :=
  withGiven ⟨"tr", "cCdst", "", [("delete", 'd'), ("squeeze-repeats", 's'), ("complement", 'c'),
    ("truncate-set1", 't')], true⟩ 1 arguments fun given => do
    let help := "\nTry 'tr --help' for more information."
    let complements := given.has 'c' || given.has 'C'
    match given.operands with
    | [] => complain 1 ("tr: missing operand" ++ help)
    | first :: rest =>
      let named := setChars 0 first
      let source := if complements then (charsBetween 0 255).filter fun c => !named.contains c
        else named
      let input ← takeInput
      match rest, given.has 'd', given.has 's' with
      | [], true, false => write (input.filter fun c => !source.contains c)
      | [], false, true => write (squeezed source.contains input)
      | [], _, _ =>
        complain 1 ("tr: missing operand after '" ++ first ++ "'\n" ++
          (if given.has 'd' then
            "Two strings must be given when both deleting and squeezing repeats."
          else "Two strings must be given when translating.") ++ help)
      | second :: _, true, true =>
        write (squeezed (setChars 256 second).contains (input.filter fun c => !source.contains c))
      | second :: _, true, false =>
        complain 1 ("tr: extra operand '" ++ second ++
          "'\nOnly one string may be given when deleting without squeezing repeats." ++ help)
      | second :: _, false, squeezes =>
        let source := if given.has 't' then source.take (setChars 0 second).length else source
        let target := setChars source.length second
        let pairs := source.zipIdx.map fun (c, index) =>
          (c, (target[index]?.or target.getLast?).getD c)
        let table : Array Char := pairs.foldl (fun table (c, d) =>
          table.setIfInBounds c.toNat d) ((charsBetween 0 255).toArray)
        let changed := input.map fun c => table[c.toNat]?.getD c
        write (if squeezes then squeezed target.contains changed else changed)

end Scriptlet.Shell
