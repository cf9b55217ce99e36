import Scriptlet.Shell.Condition
import Scriptlet.Shell.Format
import Scriptlet.Shell.State

/-!
# Builtin commands

The commands that a command line carries out by itself, apart from those that run other commands.
Each takes the state and its arguments, and gives the state that it leaves, or a complaint with
which it ends.
-/

namespace Scriptlet.Shell

/-- What a builtin command leaves, or its complaint. -/
abbrev Outcome : Type := Except String State

namespace State

/-- The state with a status. -/
def withStatus (state : State) (status : Nat) : State := { state with status }

/-- Writes to the output, if it can be written to. -/
def say (state : State) (command text : String) : State :=
  let (written, state) := state.writeTo 1 text.toList
  if written then state.withStatus 0
  else (state.complain (command ++ ": I/O error")).withStatus 1

end State

/-- The count that an argument spells. -/
def countIn (word : String) : Except String Nat :=
  match (count? word).filter (· ≤ 2147483647) with
  | some count => .ok count
  | none => .error ("Illegal number: " ++ word)

/-- The letters of options in front of arguments, and the arguments behind them. Two signs end the
options. -/
def lettersOf (known : String) (arguments : List String) :
    Except String (List Char × List String) :=
  match arguments with
  | [] => .ok ([], [])
  | word :: rest =>
    if word = "--" then .ok ([], rest)
    else
      match word.toList with
      | '-' :: letters@(_ :: _) =>
        match letters.find? fun c => !known.toList.contains c with
        | some c => .error ("Illegal option -" ++ String.singleton c)
        | none => do
          let (others, rest) ← lettersOf known rest
          return (letters ++ others, rest)
      | _ => .ok ([], arguments)

/-- Goes to another folder, which is shown where it was the earlier one or was searched for. -/
def changeFolder (state : State) (arguments : List String) : Outcome := do
  let (_, rest) ← lettersOf "LP" arguments
  let target := match rest with
    | [] => state.value "HOME"
    | "-" :: _ => state.value "OLDPWD"
    | word :: _ => word
  let arrive (way : List String) (shows : Bool) : Outcome := do
    let state := state.assign "OLDPWD" (state.value "PWD")
    let path := wordOf (Place.pathOf way)
    let state := ({ state with here := way }.assign "PWD" path).handOn "PWD"
    return if shows then state.say "cd" (path ++ "\n") else state.withStatus 0
  let visit? (path : String) : Option (List String) :=
    match state.place.resolve (spelled path) with
    | .ok way => if state.place.hasFolder (spelled path) then some way else none
    | .error _ => none
  let searched := (state.value "CDPATH").splitOn ":"
  let isFixed := target.startsWith "/" || target = "." || target = ".." ||
    target.startsWith "./" || target.startsWith "../"
  let found := if isFixed || state.value "CDPATH" = "" then none
    else searched.findSome? fun folder =>
      (visit? (if folder = "" then target else folder ++ "/" ++ target)).map (·, folder != "")
  match found with
  | some (way, shows) => arrive way shows
  | none =>
    match visit? (if target = "" then "." else target) with
    | some way => arrive way (rest.head? = some "-")
    | none => .error ("can't cd to " ++ target)

/-- Ends the command line. -/
def leaveLine (state : State) (arguments : List String) : Outcome := do
  match arguments with
  | [] => return state.exit (state.kept?.getD state.status)
  | word :: _ => return state.exit (← countIn word)

/-- Leaves a function. -/
def leaveFunction (state : State) (arguments : List String) : Outcome := do
  let status ← match arguments with
    | [] => pure state.status
    | word :: _ => countIn word
  return { state with status, course := .returning }

/-- Leaves loops, or goes to their next round. -/
def leaveLoops (goesOn : Bool) (state : State) (arguments : List String) : Outcome := do
  let count ← match arguments with
    | [] => pure 1
    | word :: _ => countIn word
  if count = 0 then throw ("Illegal number: " ++ arguments.headD "")
  let loops := min count state.depth
  let state := state.withStatus 0
  if loops = 0 then return state
  return { state with course := if goesOn then .continuing (loops - 1) else .breaking (loops - 1) }

/-- A word with an assignment: the name, and the value if there is one. -/
def splitAssignment (word : String) : String × Option String :=
  let name := word.toList.takeWhile (· != '=')
  (String.ofList name,
    if name.length < word.length then some (String.ofList (word.toList.drop (name.length + 1)))
    else none)

/-- Gives variables values, and changes what else is known of them. -/
def declareAll (state : State) (words : List String) (change : Variable → Variable) : Outcome :=
  words.foldlM (fun state word => do
    let (name, value?) := splitAssignment word
    if !isName name.toList then throw (name ++ ": bad variable name")
    let state ← match value? with
      | some value => state.set name value
      | none => pure state
    let known := (state.entry? name).getD ⟨name, none, false, false⟩
    return state.putVariable (change known)) (state.withStatus 0)

/-- The variables with some property as commands that would declare them. -/
def declarations (state : State) (command : String) (has : Variable → Bool) : String :=
  let found := (state.bindings.filter has).mergeSort fun left right =>
    decide (left.name ≤ right.name)
  String.join (found.map fun entry =>
    command ++ " " ++ entry.name ++
      (match entry.value? with
      | some value => "=" ++ singleQuotes value
      | none => "") ++ "\n")

/-- Hands variables on to other commands, or shows those that are. -/
def exportAll (state : State) (arguments : List String) : Outcome := do
  let (letters, words) ← lettersOf "p" arguments
  if words.isEmpty || letters.contains 'p' then
    return state.say "export" (declarations state "export" (·.isExported))
  declareAll state words fun entry => { entry with isExported := true }

/-- Keeps variables from being changed, or shows those that are. -/
def fixAll (state : State) (arguments : List String) : Outcome := do
  let (letters, words) ← lettersOf "p" arguments
  if words.isEmpty || letters.contains 'p' then
    return state.say "readonly" (declarations state "readonly" (·.isReadonly))
  declareAll state words fun entry => { entry with isReadonly := true }

/-- Makes variables, or the options, local to a function. -/
def declareLocal (state : State) (arguments : List String) : Outcome := do
  match state.frames with
  | [] => throw "not in a function"
  | _ =>
    arguments.foldlM (fun state word => do
      match word, state.frames with
      | "-", (hidden, kept) :: outer =>
        let frame := (hidden, kept.or (some state.options))
        return { state with frames := frame :: outer }
      | _, _ =>
        let (name, value?) := splitAssignment word
        if !isName name.toList then throw (name ++ ": bad variable name")
        let state := state.makeLocal name
        match value? with
        | some value => state.set name value
        | none => return state) (state.withStatus 0)

/-- Takes variables or functions away. -/
def unsetAll (state : State) (arguments : List String) : Outcome := do
  let (letters, words) ← lettersOf "fv" arguments
  words.foldlM (fun state name => do
    if letters.getLast? = some 'f' then
      return { state with functions := state.functions.filter (·.1 != name) }
    if !isName name.toList then throw (name ++ ": bad variable name")
    match state.entry? name with
    | some entry =>
      if entry.isReadonly then throw (name ++ ": is read only") else return state.dropVariable name
    | none => return state) (state.withStatus 0)

/-- The state with an option set or not. -/
def setOption (state : State) (on : Bool) (letter : Char) : State :=
  let others := state.options.filter (· != letter)
  { state with options := if on then letter :: others else others }

/-- Sets the option with a letter. -/
def setLetter (state : State) (on : Bool) (letter : Char) : Outcome :=
  if letter.isAlpha && (optionNames.map (·.2)).contains letter then
    .ok (setOption state on letter)
  else .error ("Illegal option -" ++ String.singleton letter)

/-- Sets options and arguments. -/
def setAll (bound : Nat) (state : State) (arguments : List String) : Outcome :=
  match bound with
  | 0 => .ok state
  | bound + 1 =>
    let give (state : State) (arguments : List String) : Outcome :=
      .ok { state with arguments, optionIndex := 1, optionOffset := 0 }
    match arguments with
    | [] => .ok state
    | "--" :: rest => give state rest
    | "-" :: rest =>
      let state := setOption (setOption state false 'x') false 'v'
      if rest.isEmpty then .ok state else give state rest
    | word :: rest =>
      match word.toList with
      | sign :: letters =>
        if sign == '-' || sign == '+' then do
          let on := sign == '-'
          let named := letters.contains 'o'
          let state ← (letters.filter (· != 'o')).foldlM (fun state c => setLetter state on c) state
          if !named then setAll bound state rest
          else
            match rest with
            | name :: rest =>
              match optionNames.lookup name with
              | some letter => setAll bound (setOption state on letter) rest
              | none => .error ("Illegal option " ++ String.singleton sign ++ "o " ++ name)
            | [] =>
              let line (entry : String × Char) : String :=
                let isSet := state.options.contains entry.2
                if on then
                  let name := entry.1 ++ "".pushn ' ' (16 - entry.1.length)
                  name ++ (if isSet then "on" else "off") ++ "\n"
                else "set " ++ (if isSet then "-o " else "+o ") ++ entry.1 ++ "\n"
              let head := if on then "Current option settings\n" else ""
              return state.say "set" (head ++ String.join (optionNames.map line))
        else give state arguments
      | [] => give state arguments

/-- Sets options and arguments, or shows the variables. -/
def setThem (state : State) (arguments : List String) : Outcome :=
  let state := state.withStatus 0
  if arguments.isEmpty then
    let found := state.bindings.mergeSort fun left right => decide (left.name ≤ right.name)
    .ok (state.say "set" (String.join (found.filterMap fun entry =>
      entry.value?.map fun value => entry.name ++ "=" ++ singleQuotes value ++ "\n")))
  else setAll (2 * arguments.length + 1) state arguments

/-- Drops the first arguments. -/
def shiftThem (state : State) (arguments : List String) : Outcome := do
  let count ← match arguments with
    | [] => pure 1
    | word :: _ => countIn word
  if state.arguments.length < count then throw "can't shift that many"
  return { state with
    arguments := state.arguments.drop count, optionIndex := 1, optionOffset := 0, status := 0 }

/-- The names of the signals, in the order of their numbers, which stand for those that have none.
The first one stands for the end. -/
def signalNames : List String :=
  ["EXIT", "HUP", "INT", "QUIT", "ILL", "TRAP", "ABRT", "BUS", "FPE", "KILL", "USR1", "SEGV",
    "USR2", "PIPE", "ALRM", "TERM", "16", "CHLD", "CONT", "STOP", "TSTP", "TTIN", "TTOU", "URG",
    "XCPU", "XFSZ", "VTALRM", "PROF", "WINCH", "IO", "PWR", "SYS", "32", "33", "RTMIN"] ++
    (List.range 15).map (fun (n : Nat) => "RTMIN+" ++ toString (n + 1)) ++
    (List.range 14).map (fun (n : Nat) => "RTMAX-" ++ toString (14 - n)) ++ ["RTMAX"]

/-- The number of the signal that a word names. -/
def signal? (word : String) : Option Nat :=
  match count? word with
  | some number => if number ≤ 64 then some number else none
  | none => signalNames.findIdx? (· = word.toUpper)

/-- Sets what is done at signals and at the end, or shows it. -/
def trapThem (state : State) (arguments : List String) : Outcome := do
  let (_, words) ← lettersOf "" arguments
  let state := state.withStatus 0
  match words with
  | [] =>
    let shown := (state.traps.mergeSort fun left right => decide (left.1 ≤ right.1)).map
      fun (number, action) =>
        "trap -- " ++ singleQuotes action ++ " " ++
          (signalNames[number]?.getD (toString number)) ++ "\n"
    return state.say "trap" (String.join shown)
  | first :: rest =>
    let (action, names) :=
      if rest.isEmpty || (count? first).any (· ≤ 64) then ("-", words) else (first, rest)
    return names.foldl (fun state name =>
      if state.status ≠ 0 then state
      else
        match signal? name with
        | none => (state.mention ("trap: " ++ name ++ ": bad trap\n")).withStatus 1
        | some number =>
          let others := state.traps.filter (·.1 != number)
          { state with traps := if action = "-" then others else (number, action) :: others }) state

/-- The bits of a mask that letters for "read", "write" and "execute" stand for. -/
def maskBits (letters : List Char) : Nat :=
  (if letters.contains 'r' then 4 else 0) + (if letters.contains 'w' then 2 else 0) +
    if letters.contains 'x' then 1 else 0

/-- Shows or sets the mask of new files. -/
def maskThem (state : State) (arguments : List String) : Outcome := do
  let (letters, words) ← lettersOf "S" arguments
  let shares := [("u", 64), ("g", 8), ("o", 1)]
  match words with
  | [] =>
    let allowed (unit : Nat) : String :=
      let bits := 7 - state.mask / unit % 8
      (if bits / 4 % 2 = 1 then "r" else "") ++ (if bits / 2 % 2 = 1 then "w" else "") ++
        if bits % 2 = 1 then "x" else ""
    let digits := Nat.toDigits 8 state.mask
    let text :=
      if letters.contains 'S' then
        ",".intercalate (shares.map fun (name, unit) => name ++ "=" ++ allowed unit)
      else String.ofList (List.replicate (4 - digits.length) '0' ++ digits)
    return state.say "umask" (text ++ "\n")
  | word :: _ =>
    if word.toList.head?.any Char.isDigit then
      if word.toList.all isOctal then
        return { state with mask := digitsValue 8 word.toList % 512, status := 0 }
      else throw ("Illegal number: " ++ word)
    else
      let mask := (word.splitOn ",").foldl (fun mask clause =>
        let who := clause.toList.takeWhile Char.isAlpha
        let rest := clause.toList.dropWhile Char.isAlpha
        let bits := maskBits (rest.drop 1)
        shares.foldl (fun mask (name, unit) =>
          let isMeant := who.isEmpty || who.contains 'a' || who.any (name.toList.contains ·)
          let old := 7 - mask / unit % 8
          let new := match rest.head? with
            | some '=' => bits
            | some '+' => old ||| bits
            | some '-' => old &&& (7 - bits)
            | _ => old
          if isMeant then mask - mask / unit % 8 * unit + (7 - new) * unit else mask) mask)
        state.mask
      return { state with mask, status := 0 }

/-- Sets aliases, or shows them. -/
def aliasThem (state : State) (arguments : List String) : Outcome :=
  let shown (entry : String × String) : String :=
    entry.1 ++ "=" ++ singleQuotes entry.2 ++ "\n"
  let state := state.withStatus 0
  if arguments.isEmpty then .ok (state.say "alias" (String.join (state.aliases.map shown)))
  else .ok (arguments.foldl (fun state word =>
    match splitAssignment word, state.aliases.lookup word with
    | (name, some value), _ =>
      { state with aliases := (name, value) :: state.aliases.filter (·.1 != name) }
    | (name, none), some value => state.say "alias" (shown (name, value))
    | (name, none), none =>
      (state.mention ("alias: " ++ name ++ " not found\n")).withStatus 1) state)

/-- Takes aliases away. -/
def unaliasThem (state : State) (arguments : List String) : Outcome := do
  let (letters, words) ← lettersOf "a" arguments
  let state := state.withStatus 0
  if letters.contains 'a' then return { state with aliases := [] }
  return words.foldl (fun state name =>
    if (state.aliases.lookup name).isSome then
      { state with aliases := state.aliases.filter (·.1 != name) }
    else (state.mention ("unalias: " ++ name ++ " not found\n")).withStatus 1) state

/-- The next option among some words, of which those before `index` are done, and `offset`
characters of the last of those as well. -/
def nextOption (state : State) (known : List Char) (name : String) (words : List String) :
    Outcome := do
  let silent := known.head? == some ':'
  let index := if words.length + 1 < state.optionIndex then 1 else state.optionIndex
  let offset := if words.length + 1 < state.optionIndex then 0 else state.optionOffset
  let done := if offset = 0 then [] else ((words[index - 2]?.getD "").toList.drop offset)
  let finish (state : State) (letter : Char) (index offset status : Nat) : Outcome := do
    let state ← state.set "OPTIND" (toString index)
    let state ← state.set name (String.singleton letter)
    return { state with optionIndex := index, optionOffset := offset, status }
  let begun : Option (List Char × Nat) :=
    if !done.isEmpty then some (done, index)
    else
      match (words[index - 1]?.getD "").toList with
      | '-' :: letters@(_ :: _) => if letters = ['-'] then none else some (letters, index + 1)
      | _ => none
  match begun with
  | none =>
    let ends := (words[index - 1]?.getD "") = "--"
    finish state '?' (if ends && done.isEmpty then index + 1 else index) 0 1
  | some ([], _) => finish state '?' index 0 1
  | some (letter :: rest, index) =>
    let wordLength := (words[index - 2]?.getD "").length
    let offset := if rest.isEmpty then 0 else wordLength - rest.length
    let behind := (known.dropWhile (· != letter)).drop 1
    if letter == ':' || !known.contains letter then
      let state ←
        if silent then state.set "OPTARG" (String.singleton letter)
        else
          let told := state.mention ("Illegal option -" ++ String.singleton letter ++ "\n")
          pure (told.dropVariable "OPTARG")
      finish state '?' index offset 0
    else if behind.head? == some ':' then
      if !rest.isEmpty then
        finish (← state.set "OPTARG" (String.ofList rest)) letter index 0 0
      else
        match words[index - 1]? with
        | some value => finish (← state.set "OPTARG" value) letter (index + 1) 0 0
        | none =>
          if silent then finish (← state.set "OPTARG" (String.singleton letter)) ':' index 0 0
          else
            let complaint := "No arg for -" ++ String.singleton letter ++ " option\n"
            finish ((state.mention complaint).dropVariable "OPTARG") '?' index 0 0
    else finish (← state.set "OPTARG" "") letter index offset 0

/-- Reads the next option of the arguments, or of other words. -/
def readOption (state : State) (arguments : List String) : Outcome :=
  match arguments with
  | [known, name] => nextOption state known.toList name state.arguments
  | known :: name :: words => nextOption state known.toList name words
  | _ => .error "Usage: getopts optstring var [arg...]"

/-- A line that is read, as chunks, of which those behind backslashes are never split; how much of
the input it takes; and whether it ends. -/
def readChunks (raw : Bool) (bound : Nat) (octets : Octets) (begun : List Char) :
    List Chunk × Nat × Bool :=
  let plain : Chunk := ⟨.atSeparators, begun.reverse.map fun c => .glyph ⟨c, true⟩⟩
  match bound with
  | 0 => ([plain], 0, false)
  | bound + 1 =>
    match octets with
    | [] => ([plain], 0, false)
    | '\n' :: _ => ([plain], 1, true)
    | '\x00' :: rest =>
      let (chunks, count, ended) := readChunks raw bound rest begun
      (chunks, count + 1, ended)
    | '\\' :: c :: rest =>
      if raw then
        let (chunks, count, ended) := readChunks raw bound (c :: rest) ('\\' :: begun)
        (chunks, count + 1, ended)
      else
        let (chunks, count, ended) := readChunks raw bound rest []
        if c == '\n' then (plain :: chunks, count + 2, ended)
        else (plain :: ⟨.never, [.glyph ⟨c, true⟩]⟩ :: chunks, count + 2, ended)
    | ['\\'] => if raw then ([⟨.atSeparators, plain.grains ++ [.glyph ⟨'\\', true⟩]⟩], 1, false)
      else ([plain], 1, false)
    | c :: rest =>
      let (chunks, count, ended) := readChunks raw bound rest (c :: begun)
      (chunks, count + 1, ended)

/-- The splitting of a line into a number of fields, of which the last one takes all that is left.
`keep` is how much of it is kept where it ends with blanks. -/
structure LineSplitting where
  complete : List String
  begun : List Char
  behindBlank : Bool
  more : Nat
  keep : Option Nat

namespace LineSplitting

/-- Takes a character of a line in. -/
def take (separators : List Char) (state : LineSplitting) (c : Char) : LineSplitting :=
  let separates := separators.contains c
  let isBlank := separates && (c == ' ' || c == '\t' || c == '\n')
  let push (state : LineSplitting) : LineSplitting := { state with begun := c :: state.begun }
  if state.more = 0 then
    if isBlank then push { state with keep := state.keep.or (some state.begun.length) }
    else
      let keep := if separates && state.behindBlank then state.keep else none
      push { state with keep, behindBlank := false }
  else if state.behindBlank then
    if separates then { state with begun := [], behindBlank := isBlank }
    else { state with begun := [c], behindBlank := false }
  else if separates then
    if state.begun.isEmpty && isBlank then { state with behindBlank := false }
    else if state.more = 1 then
      push { state with more := 0, keep := some state.begun.length, behindBlank := isBlank }
    else
      { state with
        complete := String.ofList state.begun.reverse :: state.complete
        begun := []
        behindBlank := isBlank
        more := state.more - 1 }
  else push { state with behindBlank := false }

end LineSplitting

/-- The fields of a line, as many as asked for at most. -/
def lineFields (separators : List Char) (count : Nat) (chunks : List Chunk) : List String :=
  let chars (chunk : Chunk) : List Char := (Chunk.glyphs [chunk]).map (·.char)
  let state := chunks.foldl (fun (state : LineSplitting) chunk =>
    match chunk.cut with
    | .never => { state with begun := (chars chunk).reverse ++ state.begun }
    | _ => (chars chunk).foldl (LineSplitting.take separators) { state with behindBlank := false })
    ⟨[], [], false, count, none⟩
  let last := match state.keep with
    | some keep => state.begun.reverse.take keep
    | none => state.begun.reverse
  (if last.isEmpty then state.complete else String.ofList last :: state.complete).reverse

/-- Reads a line of the input into variables. -/
def readInto (state : State) (arguments : List String) : Outcome := do
  let words := arguments
  let rec options (bound : Nat) (raw : Bool) (words : List String) :
      Except String (Bool × List String) :=
    match bound, words with
    | 0, words => .ok (raw, words)
    | bound + 1, word :: rest =>
      match word.toList with
      | ['-', '-'] => .ok (raw, rest)
      | '-' :: 'p' :: text => options bound raw (if text.isEmpty then rest.drop 1 else rest)
      | '-' :: 'r' :: 'p' :: text => options bound true (if text.isEmpty then rest.drop 1 else rest)
      | '-' :: letters@(_ :: _) =>
        match letters.find? (· != 'r') with
        | some c => .error ("Illegal option -" ++ String.singleton c)
        | none => options bound true rest
      | _ => .ok (raw, words)
    | _, [] => .ok (raw, [])
  let (raw, names) ← options (words.length + 1) false words
  if names.isEmpty then throw "arg count"
  let waiting := state.waiting 0
  let (chunks, count, ended) := readChunks raw (waiting.length + 1) waiting []
  let state := (state.advance 0 count).withStatus (if ended then 0 else 1)
  let fields := lineFields state.separators names.length chunks
  names.zipIdx.foldlM (fun state (name, index) => do
    if !isName name.toList then throw (name ++ ": bad variable name")
    state.set name (fields[index]?.getD "")) state

/-- Sends a signal to the command line itself or to a job, or tells the names of signals. -/
def sendSignal (state : State) (arguments : List String) : Outcome := do
  let send (signal : Nat) (targets : List String) : Outcome :=
    targets.foldlM (fun state target => do
      match count? (if target.startsWith "-" then (target.drop 1).toString else target) with
      | none => throw ("Illegal number: " ++ target)
      | some number =>
        if number = ownNumber then
          return if signal = 0 then state else { state with signals := state.signals ++ [signal] }
        else if state.jobs.any (·.number = number) then
          if signal = 0 then return state
          return { state with jobs := state.jobs.map fun job =>
            if job.number = number then { job with status := 128 + signal } else job }
        else return (state.complain "No such process\n").withStatus 1) (state.withStatus 0)
  let named (name : String) (targets : List String) : Outcome :=
    match signal? name with
    | some signal => send signal targets
    | none => .error ("invalid signal number or name: " ++ name)
  match arguments with
  | [] =>
    throw ("Usage: kill [-s sigspec | -signum | -sigspec] [pid | job]... or\n" ++
      "kill -l [exitstatus]")
  | ["-l"] => return state.say "kill" ("\n".intercalate ("0" :: signalNames.drop 1) ++ "\n")
  | "-l" :: word :: _ =>
    let number ← countIn word
    let number := if 128 < number then number - 128 else number
    match signalNames[number]? with
    | some name => return state.say "kill" (name ++ "\n")
    | none => throw ("invalid signal number or exit status: " ++ word)
  | "-s" :: name :: targets => named name targets
  | "--" :: targets => send 15 targets
  | word :: targets =>
    if word.startsWith "-" then
      let name := (word.drop 1).toString
      match signal? name with
      | some signal => send signal targets
      | none => throw ("Illegal option -" ++ String.ofList (name.toList.take 1))
    else send 15 arguments

/-- Waits for jobs, which are all done. -/
def waitFor (state : State) (arguments : List String) : Outcome := do
  arguments.foldlM (fun state word => do
    let number ← countIn word
    match state.jobs.find? (·.number = number) with
    | some job => return state.withStatus (job.status % 256)
    | none => return state.withStatus unknownStatus) (state.withStatus 0)

/-- Writes a format. -/
def writeFormat (state : State) (arguments : List String) : Outcome := do
  let (_, words) ← lettersOf "" arguments
  match words with
  | [] => throw "usage: printf format [arg ...]"
  | format :: arguments =>
    let (ending, formatting) := formatted format arguments
    let state := formatting.complaints.foldl (fun state complaint =>
      state.complain complaint) state
    let state := state.say "printf" (String.ofList formatting.written.reverse.flatten)
    match ending with
    | .faulty message => return (state.complain message).withStatus troubleStatus
    | .reached | .ended => return if formatting.amiss then state.withStatus 1 else state

/-- Decides a condition. -/
def decideThat (state : State) (words : List String) : Outcome := do
  return state.withStatus (if ← holds state.place words then 0 else 1)

/-- The names of the builtin commands that are no special ones. -/
def usualNames : List String :=
  ["[", "alias", "bg", "cd", "chdir", "command", "echo", "false", "fg", "getopts", "hash", "jobs",
    "kill", "printf", "pwd", "read", "test", "true", "type", "ulimit", "umask", "unalias", "wait"]

/-- The names of the builtin commands whose failure ends the command line. -/
def gravestNames : List String :=
  [".", ":", "break", "continue", "eval", "exec", "exit", "export", "local", "readonly", "return",
    "set", "shift", "times", "trap", "unset"]

/-- Whether a name is that of a builtin command. -/
def isBuiltin (name : String) : Bool := usualNames.contains name || gravestNames.contains name

/-- The path of a tool, or of a program that is named by its path. -/
def toolPath? (state : State) (name : String) : Option String :=
  let runs (path : String) : Bool :=
    state.place.hasFile (spelled path) &&
      (state.place.resolve (spelled path)).toOption.any state.place.canRunAt
  if name = "" then none
  else if name.toList.contains '/' then if runs name then some name else none
  else
    let folders := (state.value "PATH").splitOn ":"
    (folders.map fun folder => if folder = "" then name else folder ++ "/" ++ name).find? runs

/-- What a name stands for as a command, in the words of a description or in short. -/
def describeCommand (state : State) (inShort : Bool) (name : String) : Option String :=
  let say (short long : String) : Option String := some (if inShort then short else name ++ long)
  if Lexeme.keywords.contains name then say name " is a shell keyword"
  else
    match state.aliases.lookup name with
    | some value =>
      say ("alias " ++ name ++ "=" ++ singleQuotes value) (" is an alias for " ++ value)
    | none =>
      if (state.functions.lookup name).isSome then say name " is a shell function"
      else if gravestNames.contains name && name != "local" then
        say name " is a special shell builtin"
      else if isBuiltin name then say name " is a shell builtin"
      else (toolPath? state name).bind fun path => say path (" is " ++ path)

/-- Tells what names stand for as commands. -/
def tellCommands (state : State) (command : String) (inShort : Bool) (names : List String) :
    State :=
  names.foldl (fun state name =>
    match describeCommand state inShort name with
    | some text =>
      let status := state.status
      (state.say command (text ++ "\n")).withStatus status
    | none =>
      let state := if inShort then state else state.say command (name ++ ": not found\n")
      state.withStatus unknownStatus) (state.withStatus 0)

/-- What a builtin command does, if it is one that runs no others. -/
def builtin? (name : String) : Option (State → List String → Outcome) :=
  match name with
  | ":" | "true" | "hash" | "jobs" => some fun state _ => .ok (state.withStatus 0)
  | "false" => some fun state _ => .ok (state.withStatus 1)
  | "cd" | "chdir" => some changeFolder
  | "pwd" => some fun state _ => .ok (state.say "pwd" (wordOf (Place.pathOf state.here) ++ "\n"))
  | "echo" => some fun state words => .ok (state.say "echo" (String.ofList (echoed words)))
  | "printf" => some writeFormat
  | "test" => some decideThat
  | "[" => some fun state words =>
    if words.getLast? = some "]" then decideThat state words.dropLast else .error "missing ]"
  | "exit" => some leaveLine
  | "return" => some leaveFunction
  | "break" => some (leaveLoops false)
  | "continue" => some (leaveLoops true)
  | "export" => some exportAll
  | "readonly" => some fixAll
  | "local" => some declareLocal
  | "unset" => some unsetAll
  | "set" => some setThem
  | "shift" => some shiftThem
  | "trap" => some trapThem
  | "umask" => some maskThem
  | "alias" => some aliasThem
  | "unalias" => some unaliasThem
  | "getopts" => some readOption
  | "read" => some readInto
  | "kill" => some sendSignal
  | "wait" => some waitFor
  | "type" => some fun state names => .ok (tellCommands state "type" false names)
  | "times" => some fun state _ =>
    .ok (state.say "times" "0m0.000000s 0m0.000000s\n0m0.000000s 0m0.000000s\n")
  | "ulimit" => some fun state _ => .ok (state.say "ulimit" "unlimited\n")
  | "fg" | "bg" => some fun _ _ => .error "No current job"
  | _ => none

end Scriptlet.Shell
