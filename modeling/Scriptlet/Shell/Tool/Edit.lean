import Scriptlet.Shell.LinePattern
import Scriptlet.Shell.Tool.Text

/-!
# Editing lines

A script of edits is applied to every line: each edit has an address that picks lines, and an action
on the line at hand, which may be kept aside, joined with the next one, changed, or written.
-/

namespace Scriptlet.Shell

open Working

/-- What picks a line. -/
inductive LineAddress where
  | number (line : Nat)
  | last
  | holding (pattern? : Option LinePattern) (folds : Bool)
  | every (first step : Nat)

/-- Where a range of lines ends. -/
inductive RangeEnd where
  | address (address : LineAddress)
  | after (count : Nat)
  | multiple (step : Nat)

/-- The lines to which an edit applies. Without a first address those are all lines. -/
structure LineSpan where
  first? : Option LineAddress
  last? : Option RangeEnd
  negated : Bool

/-- A part of what is put in the place of a match: a character, what was captured, or a change of
case of all that follows or of the next character. -/
inductive Replacing where
  | one (c : Char)
  | captured (number : Nat)
  | toCase (letter : Char)

/-- How matches are replaced: from which match on, all of them or one, and whether the changed line
is written. -/
structure Replacement where
  pattern? : Option LinePattern
  folds : Bool
  target : List Replacing
  number : Nat
  everywhere : Bool
  writes : Bool
  path? : Option String

/-- What an edit does. A block knows the number of the edit behind it. -/
inductive EditAction where
  | block (behind : Nat)
  | closing
  | label (name : String)
  | replace (replacement : Replacement)
  | exchange (source target : List Char)
  | text (letter : Char) (text : Octets)
  | jump (letter : Char) (name : String)
  | file (letter : Char) (path : String)
  | quit (silent : Bool) (status : Nat)
  | plain (letter : Char)

/-- An edit. -/
structure Edit where
  span : LineSpan
  action : EditAction

/-- A script that cannot be read: how much of it was read, and what is wrong. -/
structure EditTrouble where
  rest : Nat
  message : String

/-- Reading a script. -/
abbrev EditReading : Type → Type := StateT Octets (Except EditTrouble)

namespace EditReading

/-- Fails. -/
def fail {α : Type} (message : String) : EditReading α := fun rest =>
  .error ⟨rest.length, message⟩

/-- Skips characters of a class. -/
def skipWhile (isIn : Char → Bool) : EditReading Unit := modify (·.dropWhile isIn)

/-- The characters in front that belong to a class. -/
def takeWhile (isIn : Char → Bool) : EditReading Octets := do
  let found := (← get).takeWhile isIn
  modify (·.drop found.length)
  return found

/-- Skips a character if it is the next one, and tells whether it was. -/
def skipIf (c : Char) : EditReading Bool := do
  if (← get).head? == some c then
    modify (·.drop 1)
    return true
  else return false

/-- The number that comes next, if there is one. -/
def number? : EditReading (Option Nat) := do
  let digits ← takeWhile Char.isDigit
  return if digits.isEmpty then none else some (digitsValue 10 digits)

/-- The characters up to a separator, which a backslash may escape, and what follows it. Between
brackets a separator counts as any other character. -/
def delimited? (separator : Char) (isPattern : Bool) (bound : Nat) (inClass : Bool)
    (chars : Octets) : Option (Octets × Octets) :=
  match bound with
  | 0 => none
  | bound + 1 =>
    match chars with
    | [] => none
    | '\\' :: c :: rest => do
      let (text, behind) ← delimited? separator isPattern bound inClass rest
      if inClass then return ('\\' :: c :: text, behind)
      else if c == separator then
        let stays := c == 'n' || (!isPattern && c == '&')
        return (if stays then '\\' :: c :: text else c :: text, behind)
      else return ('\\' :: c :: text, behind)
    | c :: rest =>
      if c == separator && !inClass then some ([], rest)
      else do
        let opens := isPattern && !inClass && c == '['
        let skipped := if opens then
            let front := if rest.head? == some '^' then 1 else 0
            front + if (rest.drop front).head? == some ']' then 1 else 0
          else 0
        let (text, behind) ← delimited? separator isPattern bound
          (if inClass then c != ']' else opens) (rest.drop skipped)
        return (c :: rest.take skipped ++ text, behind)

/-- The characters up to a separator. -/
def upTo (separator : Char) (isPattern : Bool) (message : String) : EditReading Octets := do
  let chars ← get
  match delimited? separator isPattern (chars.length + 1) false chars with
  | some (text, rest) =>
    set rest
    return text
  | none => fail message

/-- The pattern that a text spells. An empty one stands for the last one used. -/
def patternOf (extended : Bool) (text : Octets) : EditReading (Option LinePattern) := do
  if text.isEmpty then return none
  match LinePattern.ofText? extended (String.ofList text) with
  | some pattern => return some pattern
  | none => fail "Invalid regular expression"

/-- An address, if one comes next. -/
def address? (extended : Bool) : EditReading (Option LineAddress) := do
  let patterned (separator : Char) : EditReading (Option LineAddress) := do
    let text ← upTo separator true "unterminated address regex"
    let pattern ← patternOf extended text
    let folds ← skipIf 'I'
    return some (.holding pattern folds)
  match ← get with
  | '$' :: rest =>
    set rest
    return some .last
  | '/' :: rest =>
    set rest
    patterned '/'
  | '\\' :: c :: rest =>
    set rest
    patterned c
  | _ =>
    match ← number? with
    | none => return none
    | some first =>
      if ← skipIf '~' then return some (.every first ((← number?).getD 0))
      else return some (.number first)

/-- The end of a range. -/
def rangeEnd (extended : Bool) : EditReading RangeEnd := do
  skipWhile (· == ' ')
  if ← skipIf '+' then return .after ((← number?).getD 0)
  if ← skipIf '~' then return .multiple ((← number?).getD 0)
  match ← address? extended with
  | some address => return .address address
  | none => fail "unexpected \x60,'"

/-- The lines to which an edit applies. -/
def span (extended : Bool) : EditReading LineSpan := do
  let first? ← address? extended
  skipWhile (· == ' ')
  let last? ← if first?.isSome && (← skipIf ',') then some <$> rangeEnd extended else pure none
  skipWhile (· == ' ')
  let negated ← skipIf '!'
  skipWhile fun c => c == ' ' || c == '!'
  return ⟨first?, last?, negated⟩

/-- What some characters put in the place of a match. -/
def replacing (bound : Nat) (chars : Octets) : List Replacing :=
  match bound with
  | 0 => []
  | bound + 1 =>
    match chars with
    | [] => []
    | '&' :: rest => .captured 0 :: replacing bound rest
    | '\\' :: c :: rest =>
      let part : Replacing :=
        if c.isDigit then .captured (digitOf c)
        else if c == 'n' then .one '\n'
        else if c == 't' then .one '\t'
        else if ['U', 'L', 'E', 'u', 'l'].contains c then .toCase c
        else .one c
      part :: replacing bound rest
    | c :: rest => .one c :: replacing bound rest

/-- The flags behind a replacement. -/
def flags (bound : Nat) (found : Replacement) : EditReading Replacement :=
  match bound with
  | 0 => return found
  | bound + 1 => do
    match ← get with
    | c :: rest =>
      if c == 'g' then
        set rest
        flags bound { found with everywhere := true }
      else if c == 'p' then
        set rest
        flags bound { found with writes := true }
      else if c == 'i' || c == 'I' then
        set rest
        flags bound { found with folds := true }
      else if c == 'm' || c == 'M' || c == 'e' then
        set rest
        flags bound found
      else if c == 'w' then
        set (rest.dropWhile (· == ' '))
        let path ← takeWhile (· != '\n')
        return { found with path? := some (String.ofList path) }
      else if c.isDigit then
        match ← number? with
        | some 0 | none => fail "number option to \x60s' command may not be zero"
        | some number => flags bound { found with number }
      else return found
    | [] => return found

/-- A text that is put before or behind lines, or in their place. -/
def insertedText (bound : Nat) (chars : Octets) : Octets × Octets :=
  match bound with
  | 0 => ([], chars)
  | bound + 1 =>
    match chars with
    | [] => ([], [])
    | '\n' :: rest => ([], rest)
    | '\\' :: c :: rest =>
      let (text, behind) := insertedText bound rest
      (c :: text, behind)
    | c :: rest =>
      let (text, behind) := insertedText bound rest
      (c :: text, behind)

/-- The characters of an exchange, in which a backslash escapes. -/
def exchanged : Octets → Octets
  | '\\' :: 'n' :: rest => '\n' :: exchanged rest
  | '\\' :: '\\' :: rest => '\\' :: exchanged rest
  | c :: rest => c :: exchanged rest
  | [] => []

/-- Makes sure that an edit ends here. -/
def ending : EditReading Unit := do
  skipWhile fun c => c == ' ' || c == '\t'
  match ← get with
  | [] => return
  | c :: rest =>
    if c == '\n' || c == ';' then set rest
    else if c == '\x7d' || c == '#' then return
    else
      set rest
      fail "extra characters after command"

/-- The action that a letter begins. -/
def action (extended : Bool) (letter : Char) : EditReading EditAction := do
  match letter with
  | '\x7b' => return .block 0
  | '\x7d' =>
    ending
    return .closing
  | ':' =>
    skipWhile (· == ' ')
    let name ← takeWhile fun c => c != '\n' && c != ';'
    return .label (String.ofList name)
  | 's' =>
    let message := "unterminated \x60s' command"
    match ← get with
    | [] => fail message
    | separator :: rest =>
      set rest
      let pattern ← upTo separator true message
      let target ← upTo separator false message
      let found : Replacement :=
        { pattern? := ← patternOf extended pattern
          folds := false
          target := replacing (target.length + 1) target
          number := 1
          everywhere := false
          writes := false
          path? := none }
      let found ← flags 20 found
      match ← get with
      | [] => pure ()
      | c :: _ =>
        if c != '\n' && c != ';' && c != '\x7d' && c != '#' && c != ' ' then
          modify (·.drop 1)
          fail "unknown option to \x60s'"
      ending
      return .replace found
  | 'y' =>
    let message := "unterminated \x60y' command"
    match ← get with
    | [] => fail message
    | separator :: rest =>
      set rest
      let source := exchanged (← upTo separator false message)
      let target := exchanged (← upTo separator false message)
      if source.length ≠ target.length then
        fail "strings for \x60y' command are different lengths"
      ending
      return .exchange source target
  | 'a' | 'i' | 'c' =>
    skipWhile fun c => c == ' ' || c == '\t'
    if ← skipIf '\\' then
      skipWhile fun c => c == ' ' || c == '\t'
      let _ ← skipIf '\n'
    let chars ← get
    if chars.isEmpty then fail "expected \\ after \x60a', \x60c' or \x60i'"
    let (text, rest) := insertedText (chars.length + 1) chars
    set rest
    return .text letter (text ++ ['\n'])
  | 'b' | 't' | 'T' =>
    skipWhile (· == ' ')
    let name ← takeWhile fun c => c != '\n' && c != ';' && c != '\x7d'
    ending
    return .jump letter (String.ofList (name.reverse.dropWhile (· == ' ')).reverse)
  | 'r' | 'w' =>
    skipWhile (· == ' ')
    let path ← takeWhile (· != '\n')
    return .file letter (String.ofList path)
  | 'q' | 'Q' =>
    skipWhile (· == ' ')
    let status := (← number?).getD 0
    ending
    return .quit (letter == 'Q') status
  | letter =>
    if ['d', 'D', 'g', 'G', 'h', 'H', 'l', 'n', 'N', 'p', 'P', 'x', '=', 'z', 'F'].contains letter
    then
      ending
      return .plain letter
    else fail ("unknown command: \x60" ++ String.singleton letter ++ "'")

/-- All edits of a script. -/
def edits (extended : Bool) (bound : Nat) : EditReading (List Edit) :=
  match bound with
  | 0 => return []
  | bound + 1 => do
    skipWhile fun c => c == ' ' || c == '\t' || c == '\n' || c == ';'
    if (← get).isEmpty then return []
    if ← skipIf '#' then
      skipWhile (· != '\n')
      edits extended bound
    else
      let span ← span extended
      match ← get with
      | [] => fail "missing command"
      | letter :: rest =>
        set rest
        let action ← action extended letter
        return ⟨span, action⟩ :: (← edits extended bound)

end EditReading

/-- Edits in which each block knows where it ends. -/
def closedBlocks (edits : Array Edit) : Option (Array Edit) := Id.run do
  let mut found := edits
  let mut opened : List Nat := []
  for index in List.range edits.size do
    match edits[index]?, opened with
    | some ⟨_, .block _⟩, _ => opened := index :: opened
    | some ⟨_, .closing⟩, start :: others =>
      found := found.modify start fun edit => { edit with action := .block (index + 1) }
      opened := others
    | some ⟨_, .closing⟩, [] => return none
    | _, _ => pure ()
  return if opened.isEmpty then some found else none

/-- The edits that a script spells. -/
def editsOf (extended : Bool) (script : Octets) : Except EditTrouble (Array Edit) := do
  let (edits, _) ← (EditReading.edits extended (script.length + 1)).run script
  match closedBlocks edits.toArray with
  | some edits => return edits
  | none => throw ⟨0, "unmatched \x60\x7b'"⟩

/-- The state of editing: lines that are left, the number of the line at hand, that line with its
end, the line kept aside, what is to be written behind the line, whether a replacement was made, for
each edit the number of the line where its range ends, the last pattern, and the files written. -/
structure Editing where
  left : List Octets
  number : Nat
  line : Octets
  ending : Octets
  aside : Octets
  behind : List Octets
  replaced : Bool
  ranges : List (Nat × Option Nat)
  pattern? : Option (LinePattern × Bool)
  written : List (String × Octets)
  output : List Octets

namespace Editing

/-- Writes octets. -/
def write (state : Editing) (octets : Octets) : Editing :=
  { state with output := octets :: state.output }

/-- Whether an address picks the line at hand, and the state with the pattern that was used. -/
def picks (state : Editing) : LineAddress → Bool × Editing
  | .number line => (state.number = line, state)
  | .last => (state.left.isEmpty, state)
  | .every first step =>
    (if step = 0 then state.number = first
      else first ≤ state.number && (state.number - first) % step = 0, state)
  | .holding pattern? folds =>
    match pattern?.map (·, folds) |>.or state.pattern? with
    | some (pattern, folds) =>
      (pattern.isIn folds state.line, { state with pattern? := some (pattern, folds) })
    | none => (false, state)

/-- Whether an edit applies to the line at hand. -/
def selects (state : Editing) (index : Nat) (span : LineSpan) : Bool × Editing :=
  let others := state.ranges.filter (·.1 != index)
  match span.first?, span.last? with
  | none, _ => (!span.negated, state)
  | some first, none =>
    let (picked, state) := state.picks first
    (picked != span.negated, state)
  | some first, some last =>
    let isZero := match first with
      | .number 0 => true
      | _ => false
    let active? := state.ranges.lookup index
    if active?.isSome || (isZero && state.number = 1) then
      match active?.bind id, last with
      | some line, _ =>
        (decide (state.number ≤ line) != span.negated,
          if line ≤ state.number then { state with ranges := others } else state)
      | none, .address address =>
        let (ends, state) := state.picks address
        (!span.negated, { state with ranges := if ends then others else (index, none) :: others })
      | none, _ => (!span.negated, { state with ranges := others })
    else
      let (begins, state) := state.picks first
      if !begins then (span.negated, state)
      else
        let goal? : Option (Option Nat) := match last with
          | .address (.number line) => if line ≤ state.number then none else some (some line)
          | .address .last => if state.left.isEmpty then none else some none
          | .address _ => some none
          | .after count => if count = 0 then none else some (some (state.number + count))
          | .multiple step =>
            let line := if step = 0 then 0 else (state.number + step - 1) / step * step
            if line ≤ state.number then none else some (some line)
        let ranges := match goal? with
          | some goal => (index, goal) :: others
          | none => others
        (!span.negated, { state with ranges })

/-- A text in the case that letters ask for. -/
def recased (parts : List (Octets ⊕ Char)) : Octets :=
  let step (state : Octets × Option Char × Option Char) (part : Octets ⊕ Char) :
      Octets × Option Char × Option Char :=
    let (done, mode, once) := state
    match part with
    | .inr 'E' => (done, none, none)
    | .inr c => if c == 'U' || c == 'L' then (done, some c, once) else (done, mode, some c)
    | .inl [] => state
    | .inl (first :: rest) =>
      let inCase (mode : Option Char) (c : Char) : Char := match mode with
        | some 'U' | some 'u' => c.toUpper
        | some 'L' | some 'l' => c.toLower
        | _ => c
      (done ++ inCase (once.or mode) first :: rest.map (inCase mode), mode, none)
  (parts.foldl step ([], none, none)).1

/-- What is put in the place of a match. -/
def filled (target : List Replacing) (text : Octets) (captures : List (Nat × Octets)) : Octets :=
  recased (target.map fun
    | .one c => .inl [c]
    | .captured 0 => .inl text
    | .captured number => .inl ((captures.lookup number).getD [])
    | .toCase letter => .inr letter)

/-- The line with matches replaced, if there are any to replace. -/
def replacedLine? (pattern : LinePattern) (folds : Bool) (replacement : Replacement)
    (line : Octets) : Option Octets :=
  let found := pattern.findAll folds (line.length + 2) ⟨none, line, 0, []⟩ none
  let behind := found.drop (replacement.number - 1)
  let chosen := if replacement.everywhere then behind else behind.take 1
  if chosen.isEmpty then none
  else
    let (done, position) := chosen.foldl (fun (done, position) (start, after) =>
      let text := (line.take after.index).drop start
      (done ++ (line.take start).drop position ++ filled replacement.target text after.captures,
        after.index)) (([] : Octets), 0)
    some (done ++ line.drop position)

/-- Adds what is written to a file. -/
def writeFile (state : Editing) (path : String) (octets : Octets) : Editing :=
  if path == "/dev/stdout" then state.write octets
  else
    let old := (state.written.lookup path).getD []
    { state with written := (path, old ++ octets) :: state.written.filter (·.1 != path) }

/-- A line in which all that cannot be shown is escaped. -/
def unambiguous (line : Octets) : Octets :=
  line.flatMap (fun c =>
    match c with
    | '\\' => ['\\', '\\']
    | '\x07' => ['\\', 'a']
    | '\x08' => ['\\', 'b']
    | '\x0c' => ['\\', 'f']
    | '\n' => ['\\', 'n']
    | '\x0d' => ['\\', 'r']
    | '\t' => ['\\', 't']
    | '\x0b' => ['\\', 'v']
    | c =>
      if ' ' ≤ c && c ≤ '~' then [c]
      else
        let digits := Nat.toDigits 8 c.toNat
        '\\' :: List.replicate (3 - digits.length) '0' ++ digits) ++ ['$']

/-- Takes the next line to hand, if there is one. -/
def next? (state : Editing) : Option Editing :=
  match state.left with
  | [] => none
  | piece :: left =>
    let (line, ending) := splitPiece piece
    some { state with left, line, ending, number := state.number + 1 }

/-- Writes what was to be written behind the line. -/
def flush (state : Editing) : Editing :=
  { state.behind.reverse.foldl write state with behind := [] }

/-- Writes the line, and what belongs behind it. -/
def finish (quiet : Bool) (state : Editing) : Editing :=
  (if quiet then state else state.write (state.line ++ state.ending)).flush

/-- Applies edits to the line at hand from a given one on. The answer tells a status if editing
ends here. -/
def apply (bound : Nat) (quiet : Bool) (read : String → Octets) (edits : Array Edit) (index : Nat)
    (state : Editing) : Option Nat × Editing :=
  match bound with
  | 0 => (some 1, state)
  | bound + 1 =>
    match edits[index]? with
    | none => (none, finish quiet state)
    | some edit =>
      let on (state : Editing) := apply bound quiet read edits (index + 1) state
      let (selected, state) := state.selects index edit.span
      let jump (name : String) (state : Editing) : Option Nat × Editing :=
        if name == "" then (none, finish quiet state)
        else
          let goal := edits.findIdx? fun edit => match edit.action with
            | .label found => found == name
            | _ => false
          apply bound quiet read edits (goal.getD edits.size) state
      if !selected then
        match edit.action with
        | .block behind => apply bound quiet read edits behind state
        | _ => on state
      else
        match edit.action with
        | .block _ | .closing | .label _ => on state
        | .replace replacement =>
          match (replacement.pattern?.map (·, replacement.folds)).or state.pattern? with
          | none => on state
          | some (pattern, folds) =>
            let state := { state with pattern? := some (pattern, folds) }
            match replacedLine? pattern folds replacement state.line with
            | none => on state
            | some line =>
              let state := { state with line, replaced := true }
              let state := if replacement.writes then state.write (line ++ ['\n']) else state
              let state := match replacement.path? with
                | some path => state.writeFile path (line ++ ['\n'])
                | none => state
              on state
        | .exchange source target =>
          on { state with line := state.line.map fun c =>
            ((source.zip target).lookup c).getD c }
        | .text 'a' text => on { state with behind := text :: state.behind }
        | .text 'i' text => on (state.write text)
        | .text _ text =>
          let ranged := edit.span.last?.isSome && !edit.span.negated &&
            (state.ranges.lookup index).isSome
          (none, (if ranged then state else state.write text).flush)
        | .jump 'b' name => jump name state
        | .jump letter name =>
          let isTaken := if letter == 't' then state.replaced else !state.replaced
          let state := { state with replaced := false }
          if isTaken then jump name state else on state
        | .file 'r' path => on { state with behind := read path :: state.behind }
        | .file _ path => on (state.writeFile path (state.line ++ ['\n']))
        | .quit silent status =>
          (some status, if silent then state else finish quiet state)
        | .plain letter =>
          match letter with
          | 'd' => (none, state.flush)
          | 'D' =>
            if state.line.contains '\n' then
              let state := state.flush
              apply bound quiet read edits 0
                { state with line := (state.line.dropWhile (· != '\n')).drop 1 }
            else (none, state.flush)
          | 'g' => on { state with line := state.aside }
          | 'G' => on { state with line := state.line ++ '\n' :: state.aside }
          | 'h' => on { state with aside := state.line }
          | 'H' => on { state with aside := state.aside ++ '\n' :: state.line }
          | 'x' => on { state with line := state.aside, aside := state.line }
          | 'l' => on (state.write (unambiguous state.line ++ ['\n']))
          | 'n' =>
            if state.left.isEmpty then (some 0, finish quiet state)
            else on (((finish quiet state).next?).getD state)
          | 'N' =>
            if state.left.isEmpty then (some 0, finish quiet state)
            else
              let state := state.flush
              let next := state.next?.getD state
              on { next with line := state.line ++ '\n' :: next.line }
          | 'p' => on (state.write (state.line ++ ['\n']))
          | 'P' => on (state.write (state.line.takeWhile (· != '\n') ++ ['\n']))
          | '=' => on (state.write (toString state.number ++ "\n").toList)
          | 'z' => on { state with line := [] }
          | _ => on state

/-- Applies edits to all lines. -/
def applyAll (bound : Nat) (quiet : Bool) (read : String → Octets) (edits : Array Edit)
    (state : Editing) : Nat × Editing :=
  match bound with
  | 0 => (1, state)
  | bound + 1 =>
    match state.next? with
    | none => (0, state)
    | some state =>
      match apply 100000 quiet read edits 0 { state with replaced := false } with
      | (none, state) => applyAll bound quiet read edits state
      | (some status, state) => (status, state)

/-- Editing that begins with some lines. -/
def ofPieces (pieces : List Octets) : Editing :=
  ⟨pieces, 0, [], [], [], [], false, [], none, [], []⟩

end Editing

/-- Edits files by a script. -/
def editFiles (arguments : List String) : Working Unit :=
  withGiven ⟨"sed", "nErsiuz", "efl", [("quiet", 'n'), ("silent", 'n'), ("expression", 'e'),
    ("file", 'f'), ("regexp-extended", 'E'), ("in-place", 'i'), ("separate", 's')], false⟩ 1
    arguments fun given => do
    let scripts ← scriptsOf given
    match scripts, given.operands with
    | [], [] => complain 1 "Usage: sed [OPTION]... {script-only-if-no-other-script} [input-file]..."
    | [], script :: paths => edit given script paths
    | scripts, paths => edit given ("\n".intercalate scripts) paths
where
  /-- The scripts that options give. -/
  scriptsOf (given : Given) : Working (List String) := do
    let mut found := #[]
    for (letter, value) in given.options do
      if letter == 'e' then found := found.push value
      else if letter == 'f' then
        let text := String.ofList (← readJoined "sed" 1 [value])
        found := found.push (if text.endsWith "\n" then (text.dropEnd 1).toString else text)
    return found.toList
  /-- Applies a script. -/
  edit (given : Given) (script : String) (paths : List String) : Working Unit := do
    match editsOf (given.has 'E' || given.has 'r') script.toList with
    | .error trouble =>
      complain 1 ("sed: -e expression #1, char " ++ toString (script.length - trouble.rest) ++
        ": " ++ trouble.message)
    | .ok edits =>
      let quiet := given.has 'n' || script.startsWith "#n\n"
      let start ← place
      let read (path : String) : Octets := (start.read (spelled path)).toOption.getD []
      let targets := edits.toList.filterMap fun edit => match edit.action with
        | .file 'w' path => some path
        | .replace replacement => replacement.path?
        | _ => none
      let run (pieces : List Octets) : Nat × Editing :=
        Editing.applyAll (pieces.length + 2) quiet read edits
          { Editing.ofPieces pieces with written := targets.map (·, []) }
      let mut files := #[]
      for path in if paths.isEmpty then ["-"] else paths do
        match ← readPath path with
        | .ok octets => files := files.push (path, octets)
        | .error .isFolder => complain 2 ("sed: couldn't edit " ++ path ++ ": not a regular file")
        | .error cause => complain 2 ("sed: can't read " ++ path ++ ": " ++ Place.wording cause)
      let keep (written : List (String × Octets)) : Working Unit := do
        for (path, octets) in written do
          change (fun cause => "sed: couldn't open file " ++ path ++ ": " ++ Place.wording cause)
            ((← place).write (spelled path) octets)
      let ended (pieces : List Octets) : List Octets :=
        pieces.dropLast.map (fun piece =>
          if piece.getLast? == some '\n' then piece else piece ++ ['\n']) ++ pieces.getLast?.toList
      let streams : List (Option String × List Octets) :=
        if given.has 'i' then files.toList.map fun (path, octets) => (some path, octets.pieces)
        else if given.has 's' then
          files.toList.map fun (_, octets) => (none, octets.pieces)
        else [(none, ended (files.toList.flatMap fun file => Octets.pieces file.2))]
      for (path?, pieces) in streams do
        let (status, state) := run pieces
        let output := state.output.reverse.flatten
        match path? with
        | some path =>
          change (fun cause => "sed: couldn't edit " ++ path ++ ": " ++ Place.wording cause)
            ((← place).write (spelled path) output)
        | none => write output
        keep state.written
        quit status

end Scriptlet.Shell
