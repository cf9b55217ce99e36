import Scriptlet.Shell.Condition
import Scriptlet.Shell.Format
import Scriptlet.Shell.Tool.Basic

/-!
# Tools that work on their arguments

Tools that need no files: they write what their arguments spell, count, take paths apart, decide
conditions, or tell of the surroundings.
-/

namespace Scriptlet.Shell

open Working

/-- Writes arguments. Escapes are replaced only if that is asked for. -/
def writeArguments (arguments : List String) : Working Unit := do
  let isOption (word : String) : Bool :=
    word.startsWith "-" && word != "-" &&
      (word.toList.drop 1).all fun c => c == 'n' || c == 'e' || c == 'E'
  let options := (arguments.takeWhile isOption).flatMap fun word => word.toList.drop 1
  let words := arguments.dropWhile isOption
  let escapes := (options.reverse.find? fun c => c != 'n') == some 'e'
  let text := " ".intercalate words
  let (octets, ended) := if escapes then unescaped text else (text.toList, false)
  write (octets ++ if options.contains 'n' || ended then [] else ['\n'])

/-- Writes a format. -/
def writeFormatted (arguments : List String) : Working Unit := do
  match if arguments.head? == some "--" then arguments.drop 1 else arguments with
  | [] => complain 1 "printf: missing operand\nTry 'printf --help' for more information."
  | format :: arguments =>
    let (ending, formatting) := formatted format arguments
    for complaint in formatting.complaints do complain 1 ("printf: " ++ complaint)
    write formatting.written.reverse.flatten
    match ending with
    | .faulty message => complain 1 ("printf: " ++ message)
    | .reached | .ended => if formatting.amiss then quit 1

/-- Decides a condition. -/
def decideWords (words : List String) : Working Unit := do
  match holds (← place) words with
  | .ok true => quit 0
  | .ok false => quit 1
  | .error message => complain 2 ("test: " ++ message)

/-- A number with decimal places: its digits as a whole number, and how many of them stand behind
the point. -/
def decimal? (text : String) : Option (Int × Nat) :=
  let (negative, rest) := signOf text.toList
  let whole := rest.takeWhile Char.isDigit
  let (fraction, rest) := match rest.drop whole.length with
    | '.' :: rest => (rest.takeWhile Char.isDigit, rest.dropWhile Char.isDigit)
    | rest => ([], rest)
  if !rest.isEmpty || (whole.isEmpty && fraction.isEmpty) then none
  else
    let value : Int := digitsValue 10 (whole ++ fraction)
    some (if negative then -value else value, fraction.length)

/-- A whole number with a point in front of some of its digits, filled up to a width. -/
def decimalText (places width : Nat) (value : Int) : String :=
  let digits := Nat.toDigits 10 value.natAbs
  let digits := List.replicate (places + 1 - digits.length) '0' ++ digits
  let whole := digits.take (digits.length - places)
  let fraction := if places = 0 then [] else '.' :: digits.drop (digits.length - places)
  let sign := if value < 0 then ['-'] else []
  let zeros := List.replicate (width - (sign.length + whole.length + fraction.length)) '0'
  String.ofList (sign ++ zeros ++ whole ++ fraction)

/-- The longest row of numbers that is written. -/
def longestRow : Nat := 1000000

/-- Writes numbers in a row. -/
def countThrough (arguments : List String) : Working Unit := do
  let rec read (bound : Nat) (separator : String) (isWide : Bool) (format? : Option String)
      (words : List String) : String × Bool × Option String × List String :=
    match bound, words with
    | bound + 1, "-s" :: text :: rest => read bound text isWide format? rest
    | bound + 1, "-f" :: text :: rest => read bound separator isWide (some text) rest
    | bound + 1, "-w" :: rest => read bound separator true format? rest
    | bound + 1, word :: rest =>
      if word.startsWith "-s" then read bound (word.drop 2).toString isWide format? rest
      else if word.startsWith "-f" then
        read bound separator isWide (some (word.drop 2).toString) rest
      else (separator, isWide, format?, word :: rest)
    | _, words => (separator, isWide, format?, words)
  let (separator, isWide, format?, operands) :=
    read (arguments.length + 1) "\n" false none arguments
  let help := "\nTry 'seq --help' for more information."
  match operands.find? fun word => (decimal? word).isNone with
  | some word => complain 1 ("seq: invalid floating point argument: '" ++ word ++ "'" ++ help)
  | none =>
    let chosen? := match operands.filterMap decimal? with
      | [last] => some ((1, 0), (1, 0), last)
      | [first, last] => some (first, (1, 0), last)
      | [first, step, last] => some (first, step, last)
      | _ => none
    match chosen?, operands with
    | none, [] => complain 1 ("seq: missing operand" ++ help)
    | none, words => complain 1 ("seq: extra operand '" ++ (words[3]?).getD "" ++ "'" ++ help)
    | some (first, step, last), _ =>
      let places := max first.2 step.2
      let common := max places last.2
      let scaled (number : Int × Nat) : Int := number.1 * (Nat.pow 10 (common - number.2) : Nat)
      let low := scaled first
      let stride := scaled step
      let high := scaled last
      if stride = 0 then
        complain 1 ("seq: invalid Zero increment value: '" ++ (operands[1]?).getD "" ++ "'" ++ help)
      else
        let count := ((high - low).fdiv stride + 1).toNat
        let values := (List.range (min count longestRow)).map fun (index : Nat) =>
          (low + stride * (index : Int)).tdiv (Nat.pow 10 (common - places) : Nat)
        let width := if isWide then
            max (decimalText places 0 (low.tdiv (Nat.pow 10 (common - places) : Nat))).length
              (decimalText places 0 (high.tdiv (Nat.pow 10 (common - places) : Nat))).length
          else 0
        let texts := values.map fun value =>
          match format? with
          | some format =>
            String.ofList (formatted format [decimalText places 0 value]).2.written.reverse.flatten
          | none => decimalText places width value
        if !texts.isEmpty then writeText (separator.intercalate texts ++ "\n")

/-- The last step of a path, without an ending. -/
def lastStep (path ending : String) : String :=
  let steps := (path.splitOn "/").filter (· != "")
  let name := steps.getLast?.getD (if path == "" then "" else "/")
  if ending != "" && name.endsWith ending && name != ending then
    (name.dropEnd ending.length).toString
  else name

/-- A path without its last step. -/
def parentPath (path : String) : String :=
  let trim (chars : List Char) : List Char := chars.dropWhile (· == '/')
  let front := (trim path.toList.reverse).dropWhile (· != '/')
  let kept := (trim front).reverse
  if !kept.isEmpty then String.ofList kept else if path.startsWith "/" then "/" else "."

/-- Writes the last steps of paths. -/
def writeLastSteps (arguments : List String) : Working Unit :=
  withGiven ⟨"basename", "az", "s", [("multiple", 'a'), ("suffix", 's')], true⟩ 1 arguments
    fun given =>
    let help := "\nTry 'basename --help' for more information."
    match given.operands, given.has 'a' || given.has 's' with
    | [], _ => complain 1 ("basename: missing operand" ++ help)
    | paths, true =>
      writeText (String.join (paths.map fun path =>
        lastStep path ((given.value? 's').getD "") ++ "\n"))
    | [path], false => writeText (lastStep path "" ++ "\n")
    | [path, ending], false => writeText (lastStep path ending ++ "\n")
    | _ :: _ :: extra :: _, false =>
      complain 1 ("basename: extra operand '" ++ extra ++ "'" ++ help)

/-- Writes paths without their last steps. -/
def writeParents (arguments : List String) : Working Unit :=
  withGiven ⟨"dirname", "z", "", [], false⟩ 1 arguments fun given =>
    if given.operands.isEmpty then
      complain 1 "dirname: missing operand\nTry 'dirname --help' for more information."
    else writeText (String.join (given.operands.map fun path => parentPath path ++ "\n"))

/-- Writes variables that were handed on. -/
def writeVariables (arguments : List String) : Working Unit := do
  let environment := (← get).environment
  if arguments.isEmpty then
    writeText (String.join (environment.map fun (name, value) => name ++ "=" ++ value ++ "\n"))
  else
    for name in arguments do
      match environment.lookup name with
      | some value => writeText (value ++ "\n")
      | none => quit 1

/-- The lines that an endless repetition writes at most. -/
def longestRepetition : Nat := 16384

/-- Writes a line again and again. -/
def repeatWords (arguments : List String) : Working Unit :=
  let line := (if arguments.isEmpty then "y" else " ".intercalate arguments).toList ++ ['\n']
  write (List.replicate longestRepetition line).flatten

end Scriptlet.Shell
