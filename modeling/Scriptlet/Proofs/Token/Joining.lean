import Scriptlet.Token.Scan

/-!
# Source texts joined by a line break

No piece but an open quote goes on behind a line break that follows it. So the pieces of a text in
which every quote is closed do not depend on what comes behind a line break at its end, and the
scan of what comes there differs by the line on which it begins.
-/

namespace Scriptlet

namespace Piece

variable {c : Char} {rest : List Char}

/-- Whether a piece is a text without its closing quote. -/
def isOpen : Piece → Bool
  | unterminated _ => true
  | _ => false

/-- Characters of a kind that a line break is not of end before it. -/
theorem takeWhile_break {test : Char → Bool} (stops : test '\n' = false)
    (chars behind : List Char) :
    (chars ++ '\n' :: behind).takeWhile test = chars.takeWhile test := by
  induction chars with
  | nil => simp [stops]
  | cons c rest ih => simp only [List.cons_append, List.takeWhile_cons, ih]

/-- Dropping characters that a line break is not one of goes no further than the line break. -/
theorem dropWhile_break {test : Char → Bool} (stops : test '\n' = false)
    (chars behind : List Char) :
    (chars ++ '\n' :: behind).dropWhile test = chars.dropWhile test ++ '\n' :: behind := by
  induction chars with
  | nil => simp [stops]
  | cons c rest ih =>
      simp only [List.cons_append, List.dropWhile_cons, ih]
      split <;> rfl

/-- The fraction of a number does not reach over a line break. -/
theorem fraction_break (chars behind : List Char) :
    fraction (chars ++ '\n' :: behind) = fraction chars := by
  match chars with
  | [] => rfl
  | c :: rest =>
      by_cases point : c = '.'
      · subst point
        exact takeWhile_break (by decide) rest behind
      · simp [fraction, point]

/-- No symbol is spelled with a line break. -/
theorem ofSpelling?_break (c : Char) : Symbol.ofSpelling? [c, '\n'] = none := by
  rw [Symbol.ofSpelling?, List.find?_eq_none]
  intro symbol _ same
  cases symbol <;> simp [Symbol.spelling] at same

/-- No symbol is longer for a line break behind it. -/
theorem symbol_break (c : Char) (chars behind : List Char) :
    symbol c (chars ++ '\n' :: behind) = symbol c chars := by
  cases chars with
  | cons d rest => rfl
  | nil =>
      have pair : Symbol.ofSpelling? (c :: ('\n' :: behind).take 1) = none := ofSpelling?_break c
      have single : c :: ([] : List Char).take 1 = [c] := rfl
      unfold symbol
      rw [List.nil_append, pair, single]
      cases Symbol.ofSpelling? [c] <;> rfl

/-- A quote that is closed ends where it did. -/
theorem quoted_break {chars : List Char} (closed : (quoted chars).isOpen = false)
    (behind : List Char) : quoted (chars ++ '\n' :: behind) = quoted chars := by
  have begins := takeWhile_prefix (· != '"') chars
  have fits : (chars.takeWhile (· != '"')).length ≤ chars.length := begins.length_le
  by_cases whole : (chars.drop (chars.takeWhile (· != '"')).length).isEmpty
  · rw [quoted, if_pos whole] at closed
    cases closed
  · have differs : (chars.takeWhile (· != '"')).length ≠ chars.length := by
      intro same
      rw [same, List.drop_length] at whole
      exact whole rfl
    have still :
        ¬ (chars.drop (chars.takeWhile (· != '"')).length ++ '\n' :: behind).isEmpty := by
      simp
    unfold quoted
    rw [List.takeWhile_append, if_neg differs]
    dsimp only
    rw [List.drop_append_of_le_length fits, if_neg whole, if_neg still]

/-- A comment begins with two slashes, which stand on one line. -/
theorem head?_break (chars behind : List Char) :
    ((chars ++ '\n' :: behind).head? == some '/') = (chars.head? == some '/') := by
  cases chars <;> rfl

/-- The first piece of a text ends before a line break behind the text, unless it is an open
quote. -/
theorem first_break (closed : (first c rest).isOpen = false) (behind : List Char) :
    first c (rest ++ '\n' :: behind) = first c rest := by
  unfold first at closed ⊢
  rw [takeWhile_break (by decide), takeWhile_break (by decide), takeWhile_break (by decide),
    takeWhile_break (by decide), dropWhile_break (by decide), fraction_break, head?_break,
    symbol_break]
  by_cases space : isSpace c
  · rw [if_pos space, if_pos space]
  rw [if_neg space] at closed
  rw [if_neg space, if_neg space]
  by_cases ends : c == '\n'
  · rw [if_pos ends, if_pos ends]
  rw [if_neg ends] at closed
  rw [if_neg ends, if_neg ends]
  by_cases quotes : c == '"'
  · rw [if_pos quotes] at closed
    rw [if_pos quotes, if_pos quotes, quoted_break closed]
  · rw [if_neg quotes, if_neg quotes]

/-- The pieces of a text without an open quote are the first ones of that text with a line break and
more behind it. -/
theorem split_break {text : List Char} (closed : ∀ piece ∈ split text, piece.isOpen = false)
    (behind : List Char) :
    split (text ++ '\n' :: behind) = split text ++ layout ['\n'] :: split behind := by
  fun_induction split text with
  | case1 =>
      rw [List.nil_append, split]
      rfl
  | case2 c rest piece ih =>
      have same := first_break (closed piece List.mem_cons_self) behind
      have fits : (first c rest).chars.length - 1 ≤ rest.length := by
        have begins := chars_first_prefix c rest
        have shorter := begins.length_le
        rw [List.length_cons] at shorter
        omega
      rw [List.cons_append, split, same, List.drop_append_of_le_length fits, List.cons_append]
      exact congrArg _ (ih fun piece inside => closed piece (.tail _ inside))

end Piece

/-- The line breaks of two texts add up. -/
theorem lineBreaks_append (first second : List Char) :
    lineBreaks (first ++ second) = lineBreaks first + lineBreaks second :=
  List.count_append

/-- A token with its line changed. -/
def Token.mapLines (change : Nat → Nat) (token : Token) : Token :=
  { token with line := change token.line }

/-- A syntax error with its line changed. -/
def SyntaxError.mapLines (change : Nat → Nat) (error : SyntaxError) : SyntaxError :=
  { error with line := change error.line }

namespace Scan

/-- One scan behind another. -/
instance : Append Scan where
  append first second := ⟨first.tokens ++ second.tokens, first.errors ++ second.errors⟩

/-- A scan with its lines changed. -/
def mapLines (change : Nat → Nat) (scan : Scan) : Scan :=
  ⟨scan.tokens.map (·.mapLines change), scan.errors.map (·.mapLines change)⟩

/-- A piece in front of two scans is in front of the first one. -/
theorem behind_append (first second : Scan) (line : Nat) (piece : Piece) :
    (first ++ second).behind line piece = first.behind line piece ++ second := by
  cases piece <;> rfl

/-- Changing the lines of a scan changes the line of the piece in front of it. -/
theorem mapLines_behind (change : Nat → Nat) (scan : Scan) (line : Nat) (piece : Piece) :
    (scan.behind line piece).mapLines change =
      (scan.mapLines change).behind (change line) piece := by
  cases piece <;> rfl

/-- Pieces are scanned one behind the other, each from the line on which the one before ends. -/
theorem ofPieces_append (line : Nat) (pieces more : List Piece) :
    ofPieces line (pieces ++ more) =
      ofPieces line pieces ++ ofPieces (line + lineBreaks (pieces.flatMap Piece.chars)) more := by
  induction pieces generalizing line with
  | nil => rfl
  | cons piece rest ih =>
      rw [List.cons_append, ofPieces, ih, behind_append, List.flatMap_cons, lineBreaks_append,
        ← Nat.add_assoc]
      rfl

/-- Where the scan begins on a later line, all lines are later by as much. -/
theorem ofPieces_shift (line shift : Nat) (pieces : List Piece) :
    ofPieces (line + shift) pieces = (ofPieces line pieces).mapLines (· + shift) := by
  induction pieces generalizing line with
  | nil => rfl
  | cons piece rest ih =>
      rw [ofPieces, ofPieces, mapLines_behind, ← ih, Nat.add_right_comm]

/-- A scan that does not complain of an open quote has met none. -/
theorem closed_of_errors {line : Nat} {pieces : List Piece}
    (closed : ∀ error ∈ (ofPieces line pieces).errors, error.fault ≠ .unterminatedText) :
    ∀ piece ∈ pieces, piece.isOpen = false := by
  induction pieces generalizing line with
  | nil => exact fun _ inside => absurd inside List.not_mem_nil
  | cons piece rest ih =>
      have later : ∀ other ∈ rest, other.isOpen = false := by
        refine @ih (line + lineBreaks piece.chars) fun error inside => closed error ?_
        cases piece with
        | token | layout => exact inside
        | unexpected | unterminated => exact .tail _ inside
      intro other inside
      rcases List.mem_cons.mp inside with rfl | inside
      · cases other with
        | unterminated chars => exact absurd rfl (closed _ List.mem_cons_self)
        | token | layout | unexpected => rfl
      · exact later other inside

/-- The scan of two texts with a line break between them, where every quote of the first is
closed. -/
theorem ofPieces_break {text : List Char}
    (closed : ∀ piece ∈ Piece.split text, piece.isOpen = false) (line : Nat) (behind : List Char) :
    ofPieces line (Piece.split (text ++ '\n' :: behind)) =
      ofPieces line (Piece.split text) ++
        (ofPieces line (Piece.split behind)).mapLines (· + (1 + lineBreaks text)) := by
  have next : line + lineBreaks text + lineBreaks ['\n'] = line + (1 + lineBreaks text) := by
    rw [Nat.add_assoc, Nat.add_comm (lineBreaks text)]
    rfl
  rw [Piece.split_break closed, ofPieces_append, Piece.flatMap_chars_split, ofPieces,
    ← ofPieces_shift, ← next]
  rfl

/-- The scan of two source texts with a line break between them, where every quote of the first is
closed. -/
theorem ofSource_of_closed {first : String}
    (closed : ∀ piece ∈ Piece.split first.toList, piece.isOpen = false) (second : String) :
    ofSource (first ++ "\n" ++ second) =
      ofSource first ++ (ofSource second).mapLines (· + (1 + lineBreaks first.toList)) := by
  have text : (first ++ "\n" ++ second).toList = first.toList ++ '\n' :: second.toList := by
    rw [String.toList_append, String.toList_append, List.append_assoc]
    rfl
  rw [ofSource, text, ofPieces_break closed]
  rfl

/-- **Scanning composes at line breaks.** Where a text is scanned without an open quote, its tokens
and errors are the first ones of that text with a line break and more behind it; those that follow
are the tokens and errors of what stands behind the break, on lines further down. -/
theorem ofSource_break (first second : String)
    (closed : ∀ error ∈ (ofSource first).errors, error.fault ≠ .unterminatedText) :
    (ofSource (first ++ "\n" ++ second)).tokens =
        (ofSource first).tokens ++
          (ofSource second).tokens.map (·.mapLines (· + (1 + lineBreaks first.toList))) ∧
      (ofSource (first ++ "\n" ++ second)).errors =
        (ofSource first).errors ++
          (ofSource second).errors.map (·.mapLines (· + (1 + lineBreaks first.toList))) := by
  rw [ofSource_of_closed (closed_of_errors closed)]
  exact ⟨rfl, rfl⟩

/-- A plus that a comment follows, which holds a quote, and behind the break what would have made
the plus longer. -/
theorem ofSource_break_comment :
    (∀ error ∈ (ofSource "a @ +// \"").errors, error.fault ≠ .unterminatedText) ∧
      (ofSource "a @ +// \"\n+ \"p\nq\" \"").tokens =
        [⟨.identifier "a", "a", 1⟩, ⟨.symbol .plus, "+", 1⟩, ⟨.symbol .plus, "+", 2⟩,
          ⟨.text "p\nq", "\"p\nq\"", 3⟩] ∧
      (ofSource "a @ +// \"\n+ \"p\nq\" \"").errors =
        [⟨1, .unplaced, .unexpectedCharacter⟩, ⟨3, .unplaced, .unterminatedText⟩] := by
  have closed : ∀ error ∈ (ofSource "a @ +// \"").errors, error.fault ≠ .unterminatedText := by
    decide +kernel
  obtain ⟨tokens, errors⟩ := ofSource_break "a @ +// \"" "+ \"p\nq\" \"" closed
  refine ⟨closed, tokens.trans ?_, errors.trans ?_⟩ <;> decide +kernel

end Scan

end Scriptlet
