import Scriptlet.Shell.State
import Scriptlet.Shell.Sum

/-!
# Expansion

What becomes of the parts of a word: values of parameters, sums and what commands write take their
places, and a tilde in front of a path stands for a home. Quotes keep values together. What runs
the commands in a word is given as a function.
-/

namespace Scriptlet.Shell

/-- Runs a command for what it writes. -/
abbrev Answering : Type := Command → State → Octets × State

/-- How a word is expanded: whether fields are made of it, whether it stands between quotes, and
whether its own characters can be split. -/
structure Manner where
  makesFields : Bool
  quoted : Bool
  splitsText : Bool

namespace Manner

/-- Words that become arguments. -/
def arguments : Manner := ⟨true, false, false⟩

/-- Words that become one text. -/
def text : Manner := ⟨false, false, false⟩

/-- The body of a document. -/
def document : Manner := ⟨false, true, false⟩

/-- The word behind a modifier. -/
def behindModifier (manner : Manner) : Manner :=
  { manner with splitsText := !manner.quoted }

end Manner

/-- The homes of those who are known by name. -/
def homes : List (String × String) :=
  [("root", "/root"), ("daemon", "/usr/sbin"), ("bin", "/bin"), ("nobody", "/nonexistent")]

/-- A word in which tildes are replaced that stand in front, and behind colons if those count. The
flag tells whether one may stand here. -/
def withHomes (home? : String → Option String) (behindColons : Bool) (here : Bool) :
    Word → Word
  | [] => []
  | .plain '~' :: rest =>
    let ends (part : Part) : Bool := match part with
      | .plain c => c == '/' || (behindColons && c == ':')
      | _ => false
    let name := rest.takeWhile fun part => !ends part
    let behind := withHomes home? behindColons false rest
    if !here then .plain '~' :: behind
    else
      match (plainText? name).bind fun chars => home? (String.ofList chars) with
      | some home => home.toList.map .fixed ++ behind.drop name.length
      | none => .plain '~' :: behind
  | .plain ':' :: rest => .plain ':' :: withHomes home? behindColons behindColons rest
  | part :: rest => part :: withHomes home? behindColons false rest

namespace State

/-- The home that a tilde with a name stands for. -/
def home? (state : State) (name : String) : Option String :=
  if name = "" then state.value? "HOME" else homes.lookup name

/-- A word with homes in the places of tildes. -/
def atHome (state : State) (behindColons : Bool) (word : Word) : Word :=
  withHomes state.home? behindColons true word

/-- The value of a parameter other than all arguments. -/
def parameter? (state : State) (name : String) : Option String :=
  match name with
  | "?" => some (toString state.status)
  | "#" => some (toString state.arguments.length)
  | "$" => some (toString ownNumber)
  | "-" => some state.optionLetters
  | "!" => state.jobs.head?.map fun job => toString job.number
  | "0" => some state.name
  | name =>
    match count? name with
    | some index => state.arguments[index - 1]?
    | none => state.value? name

/-- All arguments as a chunk. Between quotes, and without fields to make, they are joined, unless
the name asks for each of them. -/
def argumentsChunk (state : State) (manner : Manner) (name : String) : Chunk :=
  let separate := manner.makesFields &&
    if manner.quoted then name == "@" else (state.value? "IFS").isSome
  let between : List Grain :=
    if separate then [.gap] else state.joint.toList.map fun c => .glyph ⟨c, manner.quoted⟩
  let words := state.arguments.map fun word =>
    word.toList.map fun c => Grain.glyph ⟨c, manner.quoted⟩
  { cut := if !manner.quoted then .atSeparators
      else if name == "@" && !words.isEmpty then .atGaps
      else .never
    grains := between.intercalate words }

/-- The value of a parameter as a chunk, if it has one. -/
def parameterChunk? (state : State) (manner : Manner) (name : String) : Option Chunk :=
  if name == "@" || name == "*" then some (state.argumentsChunk manner name)
  else (state.parameter? name).map (Chunk.ofText manner.quoted)

/-- Gives variables values one after the other, as long as they may be changed. -/
def assignEach (state : State) (values : List (String × String)) : State :=
  values.foldl (fun state (name, value) =>
    if state.goesOn then state.assign name value else state) state

/-- Gives a parameter a value, which only a variable can take. -/
def assignParameter (state : State) (name value : String) : State :=
  if isName name.toList then state.assign name value
  else state.giveUp (name ++ ": bad variable name")

end State

/-- What is kept of the answer of a command: all octets but NUL, without line ends behind them. -/
def keptAnswer (octets : Octets) : Octets :=
  ((octets.filter (· != '\x00')).reverse.dropWhile (· == '\n')).reverse

/-- A literal character of a word as a chunk. -/
def literal (manner : Manner) (c : Char) (fixed : Bool) : Chunk where
  cut := if manner.splitsText && !fixed then .atSeparators else .never
  grains := [.glyph ⟨c, fixed⟩]

/-- Chunks with another one in front, joined to the first one. -/
def joinFirst (chunk : Chunk) : List Chunk → List Chunk
  | first :: rest => { first with grains := chunk.grains ++ first.grains } :: rest
  | [] => [chunk]

mutual

/-- The chunks of a word. -/
def expand (bound : Nat) (answering : Answering) (manner : Manner) (word : Word) (state : State) :
    List Chunk × State :=
  match bound with
  | 0 => ([], state)
  | bound + 1 =>
    match word with
    | [] => ([], state)
    | .mark :: .value "@" .asIs [] :: .mark :: rest =>
      let chunk := state.argumentsChunk { manner with quoted := true } "@"
      let (chunks, after) := expand bound answering manner rest state
      (if state.arguments.isEmpty then chunks else chunk :: chunks, after)
    | .mark :: rest =>
      let (chunks, state) :=
        expand bound answering { manner with quoted := !manner.quoted } rest state
      (⟨.never, [.mark]⟩ :: chunks, state)
    | .plain c :: rest =>
      let (chunks, state) := expand bound answering manner rest state
      let chunk := literal manner c manner.quoted
      (match rest with
      | .plain _ :: _ => joinFirst chunk chunks
      | _ => chunk :: chunks, state)
    | .fixed c :: rest =>
      let (chunks, state) := expand bound answering manner rest state
      (literal manner c true :: chunks, state)
    | .answer body :: rest =>
      let (octets, state) := answering body state
      let chunk := Chunk.ofText manner.quoted (String.ofList (keptAnswer octets))
      let (chunks, state) := expand bound answering manner rest state
      (chunk :: chunks, state)
    | .sum word :: rest =>
      let (terms, state) := expand bound answering .text word state
      if !state.goesOn then ([], state)
      else
        match sumOf state.value? (Chunk.text terms).toList with
        | .ok (value, assigned) =>
          let chunk := Chunk.ofText manner.quoted (toString value)
          let (chunks, state) :=
            expand bound answering manner rest (state.assignEach assigned.reverse)
          (chunk :: chunks, state)
        | .error trouble => ([], state.giveUp (trouble.wording (Chunk.text terms)))
    | .value name modifier word :: rest =>
      let (first, state) := expandValue bound answering manner name modifier word state
      if !state.goesOn then ([], state)
      else
        let (chunks, state) := expand bound answering manner rest state
        (first ++ chunks, state)

/-- The chunks of the value of a parameter. -/
def expandValue (bound : Nat) (answering : Answering) (manner : Manner) (name : String)
    (modifier : Modifier) (word : Word) (state : State) : List Chunk × State :=
  match bound with
  | 0 => ([], state)
  | bound + 1 =>
    let found? := state.parameterChunk? manner name
    let nothing := Chunk.ofText manner.quoted ""
    let full? (emptyToo : Bool) : Option Chunk :=
      found?.filter fun chunk => !(emptyToo && chunk.grains.isEmpty)
    let inside (manner : Manner) := expand bound answering manner (state.atHome false word) state
    let instead (_ : Unit) := inside manner.behindModifier
    let text (_ : Unit) : String × State :=
      let (chunks, state) := inside { manner with makesFields := false, splitsText := false }
      (Chunk.text chunks, state)
    let missing (detail : String) : List Chunk × State :=
      ([], state.giveUp (name ++ ": parameter not set" ++ detail))
    let lacks := found?.isNone && state.has 'u'
    match modifier with
    | .unreadable => ([], state.giveUp "Bad substitution")
    | .asIs => if lacks then missing "" else ([found?.getD nothing], state)
    | .length =>
      let length := (found?.getD nothing).grains.length
      if lacks then missing "" else ([Chunk.ofText manner.quoted (toString length)], state)
    | .otherwise emptyToo =>
      match full? emptyToo with
      | some chunk => ([chunk], state)
      | none => instead ()
    | .instead emptyToo =>
      if (full? emptyToo).isSome then instead () else ([nothing], state)
    | .assigned emptyToo =>
      match full? emptyToo with
      | some chunk => ([chunk], state)
      | none =>
        let (value, state) := text ()
        if !state.goesOn then ([], state)
        else
          let state := state.assignParameter name value
          ([(state.parameterChunk? manner name).getD nothing], state)
    | .demanded emptyToo =>
      match full? emptyToo with
      | some chunk => ([chunk], state)
      | none =>
        if word.isEmpty then missing (if emptyToo then " or null" else "")
        else
          let (message, state) := text ()
          ([], if state.goesOn then state.giveUp (name ++ ": " ++ message) else state)
    | .without atEnd longest =>
      match found? with
      | none => if lacks then missing "" else ([], state)
      | some chunk =>
        let (chunks, state) := inside .text
        let pattern := NamePattern.ofGlyphs (Chunk.glyphs chunks)
        ([chunk.strip pattern atEnd longest], state)

end

namespace State

/-- The text of a word. Homes may stand behind colons. -/
def textOf (state : State) (bound : Nat) (answering : Answering) (behindColons : Bool)
    (word : Word) : String × State :=
  let (chunks, state) := expand bound answering .text (state.atHome behindColons word) state
  (Chunk.text chunks, state)

/-- The text of a document. -/
def documentOf (state : State) (bound : Nat) (answering : Answering) (word : Word) :
    String × State :=
  let (chunks, state) := expand bound answering .document word state
  (Chunk.text chunks, state)

/-- The pattern that a word spells. -/
def patternOf (state : State) (bound : Nat) (answering : Answering) (word : Word) :
    NamePattern × State :=
  let (chunks, state) := expand bound answering .text (state.atHome false word) state
  (NamePattern.ofGlyphs (Chunk.glyphs chunks), state)

/-- The words that fields of a word become. -/
def fieldsOf (state : State) (bound : Nat) (answering : Answering) (word : Word) :
    List String × State :=
  let (chunks, state) := expand bound answering .arguments (state.atHome false word) state
  if !state.goesOn then ([], state)
  else
    let found := Shell.fieldsOf state.separators chunks
    (found.flatMap (wordsOf state.place (!state.has 'f')), state)

/-- The words that fields of some words become. -/
def allFieldsOf (state : State) (bound : Nat) (answering : Answering) (words : List Word) :
    List String × State :=
  words.foldl (fun (found, state) word =>
    if !state.goesOn then (found, state)
    else
      let (more, state) := state.fieldsOf bound answering word
      (found ++ more, state)) ([], state)

end State

end Scriptlet.Shell
