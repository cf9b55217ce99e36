import Scriptlet.Shell.Pattern

/-!
# Patterns of lines

A pattern is found inside of a line. Of the matches that begin first the longest one counts. There
are two ways to write patterns, which differ in the signs that need a backslash.
-/

namespace Scriptlet.Shell

/-- Where something stands among words: at the beginning of one, at the end of one, at either, or at
neither, or else behind no word or before no word. -/
inductive WordEdge where
  | front
  | back
  | any
  | none
  | clearBefore
  | clearBehind

/-- A pattern of lines. Captures are numbered. -/
inductive LinePattern where
  | empty
  | one (c : Char)
  | anyOne
  | among (found : CharClass)
  | atStart
  | atEnd
  | atEdge (edge : WordEdge)
  | capture (number : Nat) (inner : LinePattern)
  | again (number : Nat)
  | both (first second : LinePattern)
  | either (left right : LinePattern)
  | repeated (inner : LinePattern) (least : Nat) (most? : Option Nat)

/-- A sign of a written pattern. -/
inductive PatternSign where
  | piece (pattern : LinePattern)
  | opening
  | closing
  | bar
  | count (least : Nat) (most? : Option Nat)

namespace PatternSign

/-- A character of a word. -/
def isWordOctet (c : Char) : Bool := c.isAlphanum || c == '_'

/-- The class of the characters that a letter behind a backslash stands for. -/
def classOf? : Char → Option CharClass
  | 'w' => some ⟨false, [('_', '_')], ["alnum"]⟩
  | 'W' => some ⟨true, [('_', '_')], ["alnum"]⟩
  | 's' => some ⟨false, [], ["space"]⟩
  | 'S' => some ⟨true, [], ["space"]⟩
  | _ => none

/-- The sign that a character behind a backslash stands for in both ways of writing. -/
def escaped (c : Char) : PatternSign :=
  match classOf? c with
  | some found => .piece (.among found)
  | none =>
    match c with
    | '<' => .piece (.atEdge .front)
    | '>' => .piece (.atEdge .back)
    | 'b' => .piece (.atEdge .any)
    | 'B' => .piece (.atEdge .none)
    | 'n' => .piece (.one '\n')
    | 't' => .piece (.one '\t')
    | c => .piece (if c.isDigit && c != '0' then .again (digitOf c) else .one c)

/-- The numbers of an interval up to the sign that closes it, and what follows. -/
def interval? (closing : List Char) (chars : List Char) : Option (PatternSign × List Char) :=
  let low := chars.takeWhile Char.isDigit
  let rest := chars.drop low.length
  let (high?, rest) := match rest with
    | ',' :: rest =>
      let high := rest.takeWhile Char.isDigit
      (if high.isEmpty then none else some (digitsValue 10 high), rest.drop high.length)
    | rest => (some (digitsValue 10 low), rest)
  if closing.isPrefixOf rest then
    some (.count (digitsValue 10 low) high?, rest.drop closing.length)
  else none

/-- The class between brackets, behind the opening one, and what follows. -/
def class? (chars : List Char) : Option (CharClass × List Char) := do
  let negated := chars.head? == some '^'
  let glyphs := (if negated then chars.drop 1 else chars).map fun c => (⟨c, false⟩ : Glyph)
  let (ranges, kinds, rest) ← CharClass.members? (glyphs.length + 1) true glyphs
  return (⟨negated, ranges, kinds⟩, rest.map (·.char))

/-- The signs that some characters spell. `fresh` tells whether a pattern or a part of it begins
here, where a star stands for itself. -/
def ofChars? (extended : Bool) (bound : Nat) (fresh : Bool) (chars : List Char) :
    Option (List PatternSign) :=
  match bound with
  | 0 => none
  | bound + 1 =>
    let go (fresh : Bool) (sign : PatternSign) (rest : List Char) : Option (List PatternSign) :=
      (ofChars? extended bound fresh rest).map (sign :: ·)
    let literal (c : Char) (rest : List Char) := go false (.piece (.one c)) rest
    let counted (c : Char) (least : Nat) (most? : Option Nat) (rest : List Char) :=
      if fresh then literal c rest else go false (.count least most?) rest
    match chars with
    | [] => some []
    | '[' :: rest => do
      let (found, rest) ← class? rest
      go false (.piece (.among found)) rest
    | '.' :: rest => go false (.piece .anyOne) rest
    | '*' :: rest => counted '*' 0 none rest
    | '^' :: rest => if extended || fresh then go true (.piece .atStart) rest else literal '^' rest
    | '$' :: rest =>
      let isLast := rest.isEmpty || ['\\', ')'].isPrefixOf rest || ['\\', '|'].isPrefixOf rest
      if extended || isLast then go false (.piece .atEnd) rest else literal '$' rest
    | '\\' :: c :: rest =>
      if extended then go false (escaped c) rest
      else
        match c with
        | '(' => go true .opening rest
        | ')' => go false .closing rest
        | '|' => go true .bar rest
        | '+' => counted '+' 1 none rest
        | '?' => counted '?' 0 (some 1) rest
        | '\x7b' => do
          let (sign, rest) ← interval? ['\\', '\x7d'] rest
          go false sign rest
        | c => go false (escaped c) rest
    | ['\\'] => none
    | c :: rest =>
      if !extended then literal c rest
      else
        match c with
        | '(' => go true .opening rest
        | ')' => go false .closing rest
        | '|' => go true .bar rest
        | '+' => counted '+' 1 none rest
        | '?' => counted '?' 0 (some 1) rest
        | '\x7b' =>
          match interval? ['\x7d'] rest, fresh with
          | some (sign, rest), false => go false sign rest
          | _, _ => literal c rest
        | c => literal c rest

end PatternSign

namespace LinePattern

/-- The pattern that signs spell up to a closing parenthesis: `choices` are the alternatives before
and `begun` is the beginning of the last one, whose last piece may still be repeated. `count` is the
number of captures so far. -/
def ofSigns? (bound : Nat) (signs : List PatternSign) (count : Nat)
    (choices? : Option LinePattern) (begun : List LinePattern) :
    Option (LinePattern × List PatternSign × Nat) :=
  match bound with
  | 0 => none
  | bound + 1 =>
    let last := begun.foldl (fun behind piece =>
      match behind with
      | .empty => piece
      | behind => .both piece behind) .empty
    let whole := match choices? with
      | some choices => .either choices last
      | none => last
    match signs with
    | [] => some (whole, [], count)
    | .closing :: _ => some (whole, signs, count)
    | .bar :: rest => ofSigns? bound rest count (some whole) []
    | .piece piece :: rest => ofSigns? bound rest count choices? (piece :: begun)
    | .count least most? :: rest =>
      match begun with
      | piece :: before =>
        ofSigns? bound rest count choices? (.repeated piece least most? :: before)
      | [] => ofSigns? bound rest count choices? begun
    | .opening :: rest => do
      let number := count + 1
      let (inner, rest, count) ← ofSigns? bound rest number none []
      match rest with
      | .closing :: rest => ofSigns? bound rest count choices? (.capture number inner :: begun)
      | _ => none

/-- The pattern that a text spells. -/
def ofText? (extended : Bool) (text : String) : Option LinePattern := do
  let signs ← PatternSign.ofChars? extended (text.length + 1) true text.toList
  let (pattern, rest, _) ← ofSigns? (4 * (signs.length + 1)) signs 0 none []
  if rest.isEmpty then return pattern else none

/-- The pattern of a text that is taken as it is. -/
def literally (text : String) : LinePattern :=
  text.toList.foldr (fun c pattern => .both (.one c) pattern) .empty

end LinePattern

/-- A place in a line: what stands before it, if anything does, what follows, how far it is from
where the search began, and what was captured. -/
structure Spot where
  before? : Option Char
  rest : Octets
  index : Nat
  captures : List (Nat × Octets)

namespace Spot

/-- The spot behind the next character. -/
def step (spot : Spot) : Spot :=
  match spot.rest with
  | c :: rest => { spot with before? := some c, rest, index := spot.index + 1 }
  | [] => spot

/-- The spot behind some characters. -/
def skip (spot : Spot) (count : Nat) : Spot :=
  (List.range count).foldl (fun spot _ => spot.step) spot

/-- Whether a spot is an edge of a word. -/
def isEdge (spot : Spot) (edge : WordEdge) : Bool :=
  let left := spot.before?.any PatternSign.isWordOctet
  let right := spot.rest.head?.any PatternSign.isWordOctet
  match edge with
  | .front => !left && right
  | .back => left && !right
  | .any => left != right
  | .none => left == right
  | .clearBefore => !left
  | .clearBehind => !right

/-- Some spots without those that come a second time. -/
def distinct (spots : List Spot) : List Spot :=
  (spots.foldl (fun (found : List Nat × List Spot) spot =>
    if found.1.contains spot.index then found
    else (spot.index :: found.1, spot :: found.2)) ([], [])).2.reverse

end Spot

namespace LinePattern

/-- The spots behind matches that begin at a spot, those of greedy matches first. -/
def endings (bound : Nat) (folds : Bool) (pattern : LinePattern) (spot : Spot) : List Spot :=
  match bound with
  | 0 => []
  | bound + 1 =>
    let same (left right : Char) : Bool :=
      left == right || (folds && left.toLower == right.toLower)
    let single (takes : Char → Bool) : List Spot :=
      if spot.rest.head?.any takes then [spot.step] else []
    match pattern with
    | .empty => [spot]
    | .one expected => single (same expected)
    | .anyOne => single fun _ => true
    | .among found =>
      single fun c => found.takes c || (folds && (found.takes c.toLower || found.takes c.toUpper))
    | .atStart => if spot.before?.isNone then [spot] else []
    | .atEnd => if spot.rest.isEmpty then [spot] else []
    | .atEdge edge => if spot.isEdge edge then [spot] else []
    | .capture number inner =>
      (endings bound folds inner spot).map fun after =>
        let text := spot.rest.take (after.index - spot.index)
        { after with captures := (number, text) :: after.captures }
    | .again number =>
      match spot.captures.lookup number with
      | none => []
      | some text =>
        let found := spot.rest.take text.length
        if found.length = text.length && (found.zip text).all fun (c, d) => same c d then
          [spot.skip text.length]
        else []
    | .both first second =>
      Spot.distinct ((endings bound folds first spot).flatMap fun middle =>
        endings bound folds second middle)
    | .either left right =>
      Spot.distinct (endings bound folds left spot ++ endings bound folds right spot)
    | .repeated inner least most? =>
      if most? = some 0 then [spot]
      else
        let rounds := (endings bound folds inner spot).filter fun after =>
          spot.index < after.index || 0 < least
        let further := rounds.flatMap fun after =>
          endings bound folds (.repeated inner (least - 1) (most?.map (· - 1))) after
        Spot.distinct (further ++ if least = 0 then [spot] else [])

/-- The longest match that begins at a spot. -/
def longestAt? (pattern : LinePattern) (folds : Bool) (spot : Spot) : Option Spot :=
  let found := endings (1000 + 40 * spot.rest.length) folds pattern { spot with captures := [] }
  found.foldl (fun best? spot =>
    match best? with
    | some best => if best.index < spot.index then some spot else some best
    | none => some spot) none

/-- The first match at a spot or behind it. -/
def find? (pattern : LinePattern) (folds : Bool) (bound : Nat) (spot : Spot) :
    Option (Nat × Spot) :=
  match bound with
  | 0 => none
  | bound + 1 =>
    match pattern.longestAt? folds spot with
    | some after => some (spot.index, after)
    | none => if spot.rest.isEmpty then none else find? pattern folds bound spot.step

/-- The first match in a line: where it begins, and the spot behind it. -/
def findIn? (pattern : LinePattern) (folds : Bool) (line : Octets) : Option (Nat × Spot) :=
  pattern.find? folds (line.length + 1) ⟨none, line, 0, []⟩

/-- Whether a line holds a match. -/
def isIn (pattern : LinePattern) (folds : Bool) (line : Octets) : Bool :=
  (pattern.findIn? folds line).isSome

/-- The matches in a line that do not overlap: where each begins, and the spot behind it. An empty
match is none right behind another one. -/
def findAll (pattern : LinePattern) (folds : Bool) (bound : Nat) (spot : Spot)
    (last? : Option Nat) : List (Nat × Spot) :=
  match bound with
  | 0 => []
  | bound + 1 =>
    match pattern.find? folds (spot.rest.length + 1) spot with
    | none => []
    | some (start, after) =>
      let isEmpty := after.index = start
      let next := if isEmpty then after.step else after
      let others := if isEmpty && after.rest.isEmpty then []
        else findAll pattern folds bound next (some after.index)
      if isEmpty && last? = some start then others else (start, after) :: others

end LinePattern

end Scriptlet.Shell
