import Scriptlet.Shell.Source

/-!
# Reading commands

The grammar of commands: simple commands with assignments and redirections, joined into pipelines,
conditions, sequences, groups, branches, loops and functions. What a dollar sign begins inside a
word may hold commands again. `bound` limits how deep reading goes, and is used up only where a
source does not get shorter.
-/

namespace Scriptlet.Shell

/-- Where a part of a word stands: outside of quotes, where it may be the end of a document that is
read; behind a modifier outside of quotes; between double quotes, themselves inside of braces or
not; behind a modifier between double quotes or in a document; in a document; or in a sum with some
parentheses open. -/
inductive Setting where
  | outside (ending : Bool)
  | brace
  | quotes (inBrace : Bool)
  | quotedBrace (inDocument inner : Bool)
  | document
  | sum (depth : Nat)

namespace Setting

/-- Whether the parts are quoted. -/
def isQuoted : Setting → Bool
  | outside _ | brace => false
  | quotes _ | quotedBrace .. | document | sum _ => true

/-- Whether the parts stand between braces. -/
def isInBrace : Setting → Bool
  | brace | quotes true | quotedBrace .. => true
  | outside _ | quotes false | document | sum _ => false

/-- Whether a quote is taken as it is. -/
def keepsQuotes : Setting → Bool
  | document => true
  | _ => false

/-- Where the word behind a modifier stands. -/
def behind (setting : Setting) (modifier : Modifier) : Setting :=
  match modifier, setting with
  | .without .., _ | _, outside _ | _, brace => brace
  | _, document => quotedBrace true false
  | _, quotedBrace inDocument _ => quotedBrace inDocument false
  | _, quotes _ | _, sum _ => quotedBrace false false

/-- Whether a backslash escapes a character between quotes. -/
def escapes (setting : Setting) (c : Char) : Bool :=
  c == '\\' || c == '\x60' || c == '$' || (c == '"' && !setting.keepsQuotes) ||
    (c == '\x7d' && setting.isInBrace)

/-- A character as a part. -/
def part (setting : Setting) (c : Char) : Part :=
  if setting.isQuoted then .fixed c else .plain c

end Setting

/-- A character that ends a word outside of quotes. -/
def endsWord (c : Char) : Bool :=
  c == ' ' || c == '\t' || c == '\n' || c == ';' || c == '&' || c == '|' || c == '(' || c == ')' ||
    c == '<' || c == '>' || c == Source.aliasEnd || c == Source.openAliasEnd

/-- A character that is the name of a parameter by itself. -/
def isShortName (c : Char) : Bool :=
  c.isDigit || c == '!' || c == '#' || c == '$' || c == '*' || c == '-' || c == '?' || c == '@'

/-- What the next lexeme may be besides what it looks like: line ends may be skipped, keywords and
aliases may be looked for. -/
structure Watch where
  lines : Bool
  keywords : Bool
  aliases : Bool

namespace Watch

/-- Nothing is looked for. -/
def plain : Watch := ⟨false, false, false⟩

/-- Where a command begins. -/
def command : Watch := ⟨false, true, true⟩

/-- Where a command begins, behind line ends. -/
def fresh : Watch := ⟨true, true, true⟩

end Watch

/-- The way in which a list of commands is read: up to the end of a line, up to a lexeme that ends
it, or likewise with nothing in it allowed. -/
inductive ListKind where
  | line
  | some
  | any

open Reading

/-- The modifier behind the name of a parameter whose first character is given. A character that
begins none is used up. -/
def modifier (first : Option Char) : Reading (Modifier × Bool) := do
  let trims (sign : Char) (atEnd : Bool) : Reading (Modifier × Bool) := do
    if (← peek) == some sign then
      skip
      return (.without atEnd true, false)
    else return (.without atEnd false, false)
  let simple (emptyToo : Bool) : Option Char → Modifier × Bool
    | some '\x7d' => (.asIs, !emptyToo)
    | some '-' => (.otherwise emptyToo, false)
    | some '+' => (.instead emptyToo, false)
    | some '?' => (.demanded emptyToo, false)
    | some '=' => (.assigned emptyToo, false)
    | _ => (.unreadable, false)
  match first with
  | some ':' => return simple true (← next)
  | some '%' => trims '%' true
  | some '#' => trims '#' false
  | first => return simple false first

/-- The name of a parameter between braces, its modifier, and whether the closing brace is read. -/
def bracedName : Reading (String × Modifier × Bool) := do
  let bound ← ample
  let named (c : Char) : Reading String := do
    return String.ofList (← takeWhile (if c.isDigit then Char.isDigit else insideName) bound)
  let isWide (c : Char) := insideName c
  match ← peek with
  | none | some '\x7d' => return ("", .unreadable, false)
  | some c =>
    if isWide c then
      let name ← named c
      let (found, closed) ← modifier (← next)
      return (name, found, closed)
    skip
    if c == '#' then
      match ← peek with
      | some d =>
        if isWide d then
          let name ← named d
          return (name, if (← peek) == some '\x7d' then .length else .unreadable, false)
        skip
        if d != '\x7d' && (← peek) == some '\x7d' then
          return (String.singleton d, if isShortName d then .length else .unreadable, false)
        let (found, closed) ← modifier (some d)
        return ("#", found, closed)
      | none => return ("#", .unreadable, false)
    else if isShortName c then
      let (found, closed) ← modifier (← next)
      return (String.singleton c, found, closed)
    else return ("", .unreadable, false)

/-- The characters up to a single quote. -/
def singleQuoted (bound : Nat) : Reading Word :=
  match bound with
  | 0 => fail "Unterminated quoted string"
  | bound + 1 => do
    match ← nextBare with
    | none => fail "Unterminated quoted string"
    | some '\'' => return [.mark]
    | some c => return .fixed c :: (← singleQuoted bound)

/-- The operator that begins with a character, which is read already. -/
def operatorFrom (c : Char) : Reading String := do
  if (c == '&' || c == '|' || c == ';') && (← peek) == some c then
    skip
    return String.ofList [c, c]
  else return String.singleton c

/-- The operator of a redirection that begins with a character, which is read already. -/
def redirectionFrom (c : Char) : Reading String := do
  let second ← peek
  let longer (d : Char) : Reading String := do
    skip
    return String.ofList [c, d]
  match second with
  | some d =>
    if c == '>' && (d == '>' || d == '&' || d == '|') then longer d
    else if c == '<' && (d == '&' || d == '>') then longer d
    else if c == '<' && d == '<' then
      skip
      if (← peek) == some '-' then
        skip
        return "<<-"
      else return "<<"
    else return String.singleton c
  | none => return String.singleton c

/-- What the operator of a redirection does, and the stream that it means by itself. -/
def direction? : String → Option (Nat × Direction)
  | ">" => some (1, .write)
  | ">|" => some (1, .overwrite)
  | ">>" => some (1, .append)
  | "<" => some (0, .read)
  | "<>" => some (0, .update)
  | ">&" => some (1, .copyOutput)
  | "<&" => some (0, .copyInput)
  | _ => none

/-- The names of the commands that no function may have. -/
def specialNames : List String :=
  [".", ":", "break", "continue", "eval", "exec", "exit", "export", "local", "readonly", "return",
    "set", "shift", "times", "trap", "unset"]

mutual

/-- The parts of a word up to its end, which is used up where it is a quote or a bracket. -/
def parts (bound : Nat) (setting : Setting) : Reading Word :=
  match bound with
  | 0 => fail "word too long"
  | bound + 1 => do
    let found ← peek
    match found, setting with
    | none, .outside _ | none, .document => return []
    | none, .brace | none, .quotedBrace .. => fail "Missing '\x7d'"
    | none, .quotes _ => fail "Unterminated quoted string"
    | none, .sum _ => fail "Missing '))'"
    | some '"', .quotes _ =>
      skip
      return [.mark]
    | some '\x7d', .brace | some '\x7d', .quotedBrace _ false =>
      skip
      return []
    | some '"', .quotedBrace inDocument inner =>
      skip
      parts bound (.quotedBrace inDocument !inner)
    | some ')', .sum 0 =>
      skip
      if (← peek) == some ')' then
        skip
        return []
      else return .plain ')' :: (← parts bound setting)
    | some ')', .sum (depth + 1) =>
      skip
      return .plain ')' :: (← parts bound (.sum depth))
    | some '(', .sum depth =>
      skip
      return .plain '(' :: (← parts bound (.sum (depth + 1)))
    | some c, setting =>
      let isEnd := match setting with
        | .outside _ => endsWord c
        | _ => false
      let isEnding := match setting with
        | .outside ending => ending
        | _ => false
      if isEnd then return []
      skip
      if c == Source.aliasEnd || c == Source.openAliasEnd then
        modify (·.closeAlias c)
        parts bound setting
      else if c == '\\' then
        match ← nextBare with
        | none => return [.fixed '\\']
        | some d =>
          let rest ← parts bound setting
          return if setting.isQuoted && !setting.escapes d then .fixed '\\' :: .fixed d :: rest
            else .fixed d :: rest
      else if c == '$' && !isEnding then
        let found ← dollar bound setting
        return found ++ (← parts bound setting)
      else if c == '\x60' && !isEnding then
        let body ← backquote bound setting.isQuoted
        return .answer body :: (← parts bound setting)
      else if c == '\'' && !setting.isQuoted then
        let quoted ← singleQuoted (← ample)
        return .mark :: quoted ++ (← parts bound setting)
      else if c == '"' && !setting.isQuoted then
        let quoted ← parts bound (.quotes setting.isInBrace)
        return .mark :: quoted ++ (← parts bound setting)
      else return setting.part c :: (← parts bound setting)

/-- What a dollar sign begins. -/
def dollar (bound : Nat) (setting : Setting) : Reading Word :=
  match bound with
  | 0 => fail "word too long"
  | bound + 1 => do
    match ← peek with
    | some '(' =>
      skip
      if (← peek) == some '(' then
        skip
        return [.sum (← parts bound (.sum 0))]
      else
        let outer := (← get).announced
        modify fun source => { source with announced := [] }
        let body ← list bound .any .nothing
        let closing ← lexeme bound .plain
        if !closing.isText ")" then unexpected closing (some ")")
        modify fun source =>
          { source with
            announced := outer
            documents := source.announced.map (fun _ => []) ++ source.documents }
        return [.answer (body.getD .nothing)]
    | some '\x7b' =>
      skip
      let (name, found, closed) ← bracedName
      if closed then return [.value name found []]
      let word ← parts bound (setting.behind found)
      return [.value name found word]
    | some c =>
      if beginsName c then
        let name ← takeWhile insideName (← ample)
        return [.value (String.ofList name) .asIs []]
      else if isShortName c then
        skip
        return [.value (String.singleton c) .asIs []]
      else return [setting.part '$']
    | none => return [setting.part '$']

/-- The command between backquotes, of which the first one is read. -/
def backquote (bound : Nat) (quoted : Bool) : Reading Command :=
  match bound with
  | 0 => fail "word too long"
  | bound + 1 => do
    let outer ← get
    let some (text, behind) := backquoted? quoted outer.rest | fail "EOF in backquote substitution"
    set { outer with rest := text, announced := [], pushed := none }
    let body ← list bound .any .nothing
    modify fun source =>
      { outer with
        rest := behind
        documents := source.announced.map (fun _ => []) ++ source.documents
        count := source.count }
    return body.getD .nothing

/-- The documents that were announced, whose text begins here. -/
def documents (bound : Nat) : Reading Unit :=
  match bound with
  | 0 => fail "document too long"
  | bound + 1 => do
    match (← get).announced with
    | [] => return
    | announced :: others =>
      let outer ← get
      let (text, rest, count) :=
        documentLines announced (outer.rest.length + 1) false outer.rest
      let word ←
        if announced.expands then do
          set { outer with rest := text, announced := [], pushed := none }
          parts bound .document
        else pure (text.map .fixed)
      modify fun source =>
        { source with
          rest
          line := outer.line + count
          announced := others
          pushed := outer.pushed
          documents := word :: source.documents }
      documents bound

/-- The next lexeme, apart from keywords and aliases. -/
def bareLexeme (bound : Nat) : Reading Lexeme :=
  match bound with
  | 0 => fail "too many words"
  | bound + 1 => do
    if let some lexeme := (← get).pushed then
      modify fun source => { source with pushed := none }
      return lexeme
    match ← peek with
    | none => return .endOfInput
    | some c =>
      if c == ' ' || c == '\t' then
        skip
        bareLexeme bound
      else if c == Source.aliasEnd || c == Source.openAliasEnd then
        skip
        modify (·.closeAlias c)
        bareLexeme bound
      else if c == '#' then
        modify fun source => { source with rest := source.rest.dropWhile (· != '\n') }
        bareLexeme bound
      else if c == '\n' then
        skip
        return .newline
      else if c == '&' || c == '|' || c == ';' || c == '(' || c == ')' then
        skip
        return .operator (← operatorFrom c)
      else if c == '<' || c == '>' then
        skip
        return .redirection none (← redirectionFrom c)
      else wordLexeme bound false

/-- A word, or a redirection with the number of its stream in front. -/
def wordLexeme (bound : Nat) (ending : Bool) : Reading Lexeme :=
  match bound with
  | 0 => fail "too many words"
  | bound + 1 => do
    let begun := (← get).rest
    let word ← parts bound (.outside ending)
    let quoted := word.any fun
      | .fixed _ | .mark => true
      | _ => false
    match word, ← peek with
    | [.plain d], some c =>
      if d.isDigit && (c == '<' || c == '>') && begun.head? == some d then
        skip
        return .redirection (some (digitOf d)) (← redirectionFrom c)
      else return .word word quoted
    | word, _ => return .word word quoted

/-- The next lexeme. -/
def lexeme (bound : Nat) (watch : Watch) : Reading Lexeme :=
  match bound with
  | 0 => fail "too many words"
  | bound + 1 => do
    let found ← bareLexeme bound
    let aliasNext := (← get).aliasNext
    modify fun source => { source with aliasNext := false }
    match found with
    | .newline =>
      if watch.lines then
        documents bound
        lexeme bound watch
      else return found
    | .word word false =>
      let some text := plainText? word | return found
      let text := String.ofList text
      if watch.keywords && Lexeme.keywords.contains text then return .keyword text
      let source ← get
      match if watch.aliases || aliasNext then source.aliases.lookup text else none with
      | none => return found
      | some value =>
        if source.inUse.contains text then return found
        let chars := value.toList
        let mark :=
          if chars.getLast? == some ' ' || chars.getLast? == some '\t' then Source.openAliasEnd
          else Source.aliasEnd
        set { source with
          rest := chars ++ mark :: source.rest
          inUse := text :: source.inUse }
        lexeme bound watch
    | _ => return found

/-- Commands up to the end of a list. At the end of the input a line gives nothing. -/
def list (bound : Nat) (kind : ListKind) (before : Command) : Reading (Option Command) :=
  match bound with
  | 0 => fail "too many commands"
  | bound + 1 => do
    let isLine := match kind with
      | .line => true
      | _ => false
    let mayEnd := match kind with
      | .any => true
      | _ => false
    let isEmpty := match before with
      | .nothing => true
      | _ => false
    let found ← lexeme bound { Watch.fresh with lines := !isLine }
    match found with
    | .newline =>
      documents bound
      return some before
    | .endOfInput =>
      if isLine && isEmpty then return none
      putBack found
      documents bound
      return some before
    | _ => putBack found
    if (mayEnd || (!isEmpty && !isLine)) && found.endsList then return some before
    let command ← conditions bound
    let behind ← lexeme bound .plain
    let command := if behind.isText "&" then .background command else command
    let whole := match before with
      | .nothing => command
      | before => .sequence before command
    match behind with
    | .newline | .endOfInput =>
      putBack behind
      list bound kind whole
    | _ =>
      if behind.isText "&" || behind.isText ";" then list bound kind whole
      else if isLine then unexpected behind none
      else
        putBack behind
        return some whole

/-- Commands up to the end of a list, at least one of them. -/
def block (bound : Nat) : Reading Command :=
  match bound with
  | 0 => fail "too many commands"
  | bound + 1 => do
    return (← list bound .some .nothing).getD .nothing

/-- Pipelines joined by conditions. -/
def conditions (bound : Nat) : Reading Command :=
  match bound with
  | 0 => fail "too many commands"
  | bound + 1 => do
    moreConditions bound (← pipeline bound .plain)

/-- What follows the first pipeline. -/
def moreConditions (bound : Nat) (left : Command) : Reading Command :=
  match bound with
  | 0 => fail "too many commands"
  | bound + 1 => do
    let found ← lexeme bound .plain
    if found.isText "&&" then moreConditions bound (.andThen left (← pipeline bound .fresh))
    else if found.isText "||" then moreConditions bound (.orElse left (← pipeline bound .fresh))
    else
      putBack found
      return left

/-- Commands joined by bars. -/
def pipeline (bound : Nat) (watch : Watch) : Reading Command :=
  match bound with
  | 0 => fail "too many commands"
  | bound + 1 => do
    let found ← lexeme bound watch
    let negates := found.isText "!"
    let first ←
      if negates then command bound .command
      else do
        putBack found
        command bound .plain
    let others ← piped bound
    let whole := if others.isEmpty then first else .pipeline (first :: others)
    return if negates then .negated whole else whole

/-- The commands behind bars. -/
def piped (bound : Nat) : Reading (List Command) :=
  match bound with
  | 0 => fail "too many commands"
  | bound + 1 => do
    let found ← lexeme bound .plain
    if found.isText "|" then
      let next ← command bound .fresh
      return next :: (← piped bound)
    else
      putBack found
      return []

/-- The keyword that has to come next. -/
def expected (bound : Nat) (text : String) : Reading Unit :=
  match bound with
  | 0 => fail "too many commands"
  | bound + 1 => do
    let found ← lexeme bound .plain
    if !found.isText text then unexpected found (some text)

/-- The rest of a branch, behind the keyword that begins its condition. -/
def branch (bound : Nat) : Reading Command :=
  match bound with
  | 0 => fail "too many commands"
  | bound + 1 => do
    let condition ← block bound
    expected bound "then"
    let positive ← block bound
    let found ← lexeme bound .plain
    if found.isText "elif" then return .branch condition positive (← branch bound)
    else if found.isText "else" then
      let negative ← block bound
      expected bound "fi"
      return .branch condition positive negative
    else if found.isText "fi" then return .branch condition positive .nothing
    else unexpected found (some "fi")

/-- The words up to the end of a line or of a command, and what ends them. -/
def wordsUntil (bound : Nat) (watch : Watch) : Reading (List Word × Lexeme) :=
  match bound with
  | 0 => fail "too many words"
  | bound + 1 => do
    match ← lexeme bound watch with
    | .word word _ =>
      let (words, ending) ← wordsUntil bound .plain
      return (word :: words, ending)
    | ending => return ([], ending)

/-- A loop over words, behind the keyword that begins it. -/
def wordLoop (bound : Nat) (line : Nat) : Reading Command :=
  match bound with
  | 0 => fail "too many commands"
  | bound + 1 => do
    let name ← match ← lexeme bound .plain with
      | .word word false =>
        match plainText? word with
        | some chars => if isName chars then pure chars else fail "Bad for loop variable"
        | none => fail "Bad for loop variable"
      | _ => fail "Bad for loop variable"
    let found ← lexeme bound .fresh
    let words ←
      if found.isText "in" then do
        let (words, ending) ← wordsUntil bound .plain
        match ending with
        | .newline => pure words
        | ending => if ending.isText ";" then pure words else unexpected ending none
      else do
        if !found.isText ";" then putBack found
        pure [[.mark, .value "@" .asIs [], .mark]]
    let opening ← lexeme bound .fresh
    if !opening.isText "do" then unexpected opening (some "do")
    let body ← block bound
    expected bound "done"
    return .each line (String.ofList name) words body

/-- The patterns of an arm, of which the first lexeme is read, up to the parenthesis behind
them. -/
def armPatterns (bound : Nat) (found : Lexeme) : Reading (List Word) :=
  match bound with
  | 0 => fail "too many words"
  | bound + 1 => do
    let pattern : Word := match found with
      | .word word _ => word
      | .keyword text | .operator text => text.toList.map .plain
      | _ => []
    let behind ← lexeme bound .plain
    if behind.isText "|" then
      return pattern :: (← armPatterns bound (← lexeme bound .plain))
    else if behind.isText ")" then return [pattern]
    else unexpected behind (some ")")

/-- The arms of a choice up to the keyword that ends them. -/
def arms (bound : Nat) : Reading (List (List Word × Command)) :=
  match bound with
  | 0 => fail "too many commands"
  | bound + 1 => do
    let found ← lexeme bound ⟨true, true, false⟩
    if found.isText "esac" then return []
    let first ← if found.isText "(" then lexeme bound .plain else pure found
    let patterns ← armPatterns bound first
    let body := (← list bound .any .nothing).getD .nothing
    let ending ← lexeme bound ⟨true, true, false⟩
    if ending.isText "esac" then return [(patterns, body)]
    else if ending.isText ";;" then return (patterns, body) :: (← arms bound)
    else unexpected ending (some ";;")

/-- The target of a redirection whose operator is read. -/
def redirection (bound : Nat) (descriptor : Option Nat) (operator : String) : Reading Redirection :=
  match bound with
  | 0 => fail "too many words"
  | bound + 1 => do
    if operator == "<<" || operator == "<<-" then
      let rec skipBlanks (count : Nat) : Reading Unit :=
        match count with
        | 0 => return
        | count + 1 => do
          match ← peek with
          | some ' ' | some '\t' =>
            skip
            skipBlanks count
          | _ => return
      skipBlanks (← ample)
      match ← peek with
      | none => unexpected .endOfInput none
      | some c => if endsWord c || c == '#' then unexpected (← lexeme bound .plain) none
      match ← wordLexeme bound true with
      | .word word quoted =>
        let number := (← get).count
        let announced : Announced := ⟨number, fixedText word, operator == "<<-", !quoted⟩
        modify fun source =>
          { source with announced := source.announced ++ [announced], count := number + 1 }
        return .document (descriptor.getD 0) number
      | other => unexpected other none
    else
      match ← lexeme bound .plain, direction? operator with
      | .word word _, some (own, direction) =>
        return .named (descriptor.getD own) direction word
      | other, _ => unexpected other none

/-- The redirections that come next. -/
def redirections (bound : Nat) : Reading (List Redirection) :=
  match bound with
  | 0 => fail "too many words"
  | bound + 1 => do
    match ← lexeme bound .command with
    | .redirection descriptor operator =>
      let first ← redirection bound descriptor operator
      return first :: (← redirections bound)
    | other =>
      putBack other
      return []

/-- The rest of a simple command, of which `assignments`, `words` and `streams` are read, the last
ones first; or the function that it turns out to declare. -/
def simple (bound : Nat) (line : Nat) (assignments words : List Word)
    (streams : List Redirection) : Reading Command :=
  match bound with
  | 0 => fail "too many words"
  | bound + 1 => do
    match ← lexeme bound ⟨false, false, words.isEmpty⟩ with
    | .word word _ =>
      if words.isEmpty && (assignment? word).isSome then
        simple bound line (word :: assignments) words streams
      else simple bound line assignments (word :: words) streams
    | .redirection descriptor operator =>
      let stream ← redirection bound descriptor operator
      simple bound line assignments words (stream :: streams)
    | other =>
      match words, other.isText "(" && assignments.isEmpty && streams.isEmpty with
      | [word], true =>
        let closing ← lexeme bound .plain
        if !closing.isText ")" then unexpected closing (some ")")
        let some name := plainText? word | fail "Bad function name"
        if !isName name || specialNames.contains (String.ofList name) then
          fail "Bad function name"
        let begun ← Reading.line
        let body ← command bound .fresh
        return .define begun (String.ofList name) body
      | _, _ =>
        putBack other
        return .simple line assignments.reverse words.reverse streams.reverse

/-- A single command. -/
def command (bound : Nat) (watch : Watch) : Reading Command :=
  match bound with
  | 0 => fail "too many commands"
  | bound + 1 => do
    let line ← Reading.line
    let found ← lexeme bound watch
    let finish (body : Command) : Reading Command := do
      let streams ← redirections bound
      return if streams.isEmpty then body else .connected line body streams
    match found with
    | .word .. | .redirection .. =>
      putBack found
      simple bound line [] [] []
    | .operator "(" =>
      let body ← block bound
      expected bound ")"
      return .apart line body (← redirections bound)
    | .keyword "\x7b" =>
      let body ← block bound
      expected bound "\x7d"
      finish body
    | .keyword "if" => finish (← branch bound)
    | .keyword "while" | .keyword "until" =>
      let condition ← block bound
      expected bound "do"
      let body ← block bound
      expected bound "done"
      finish (.loop (found.isText "while") condition body)
    | .keyword "for" => finish (← wordLoop bound line)
    | .keyword "case" =>
      match ← lexeme bound .plain with
      | .word subject _ =>
        let opening ← lexeme bound .fresh
        if !opening.isText "in" then unexpected opening (some "in")
        finish (.choose line subject (← arms bound))
      | other => unexpected other (some "word")
    | _ => unexpected found none

end

/-- A bound above all that reading some characters can need. -/
def readingBound (chars : Octets) : Nat := 64 * (chars.length + 64)

/-- Reads the commands of the next line. At the end of the input there is none. -/
def readLine? (source : Source) : Except SyntaxTrouble (Option Command × Source) :=
  (list (readingBound source.rest) .line .nothing).run { source with pushed := none }

/-- The parts of a text that is read as a document. -/
def documentWord? (text : Octets) : Option Word :=
  ((parts (readingBound text) .document).run (Source.ofOctets text 1 [] 0)).toOption.map (·.1)

end Scriptlet.Shell
