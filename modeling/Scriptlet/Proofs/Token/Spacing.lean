import Scriptlet.Proofs.Token.Division

/-!
# Tokens with layout between them

A token ends before a blank and before a line break, whatever comes behind. So tokens that are
written one behind the other are scanned as what they are, if layout stands between them that begins
with a blank or a line break.
-/

namespace Scriptlet

open Piece Number

/-- A character at which every token ends: a blank or a line break. -/
def isGap (c : Char) : Bool :=
  isSpace c || c == '\n'

/-- Blanks, line breaks, and comments with the line breaks that end them. -/
inductive Layout : List Char → Prop
  | nil : Layout []
  | gap {c : Char} {rest : List Char} : isGap c → Layout rest → Layout (c :: rest)
  | comment {content rest : List Char} :
      '\n' ∉ content → Layout rest → Layout ('/' :: '/' :: content ++ '\n' :: rest)

/-- Layout that keeps the tokens around it apart. -/
structure Separates (between : List Char) : Prop where
  layout : Layout between
  begins : ∃ c rest, between = c :: rest ∧ isGap c

/-- A word of a text: a token, and the characters with which it is written. -/
abbrev Word : Type := TokenKind × List Char

/-- Words that are written one behind the other, with layout between them. -/
inductive Spaced : List Word → List Char → Prop
  | nil : Spaced [] []
  | last {word : Word} : Spaced [word] word.2
  | cons {word next : Word} {words : List Word} {between text : List Char} :
      Separates between → Spaced (next :: words) text →
      Spaced (word :: next :: words) (word.2 ++ (between ++ text))

variable {c : Char} {chars behind between text : List Char} {words : List Word} {kind : TokenKind}

/-! ## Where a token ends -/

theorem not_isGap_of_isWordPart (part : isWordPart c) : ¬ isGap c := by
  obtain ⟨noSpace, noBreak, -⟩ := ne_of_isWordPart part
  simpa [isGap, noBreak] using noSpace

theorem Symbol.not_isGap (symbol : Symbol) : ∀ d ∈ symbol.spelling, ¬ isGap d :=
  List.any_eq_false.mp (by cases symbol <;> decide)

theorem Number.not_isGap {whole fraction : List Char} (digits : ∀ d ∈ whole, isDigit d)
    (others : ∀ d ∈ fraction, isDigit d) : ∀ d ∈ whole ++ pointed fraction, ¬ isGap d := by
  intro d inside
  have digitOrPoint : isDigit d ∨ d = '.' := by
    rcases List.mem_append.mp inside with inside | inside
    · exact .inl (digits d inside)
    · cases fraction with
      | nil => cases inside
      | cons first rest =>
          rcases List.mem_cons.mp inside with point | inside
          · exact .inr point
          · exact .inl (others d inside)
  rcases digitOrPoint with digit | rfl
  · exact not_isGap_of_isWordPart (by simp [isWordPart, digit])
  · decide

/-- What is longer than some characters at the beginning of a text where a gap follows them has the
gap in it. -/
theorem exists_gap_of_longer {more : List Char} (apart : ∀ c ∈ behind.head?, isGap c)
    (begins : more <+: chars ++ behind) (longer : chars.length < more.length) :
    ∃ gap tail, isGap gap ∧ more = chars ++ gap :: tail := by
  obtain ⟨extra, rfl⟩ := List.prefix_of_prefix_length_le (List.prefix_append chars behind) begins
    (Nat.le_of_lt longer)
  have start := (List.prefix_append_right_inj chars).mp begins
  cases extra with
  | nil => simp at longer
  | cons gap tail =>
      obtain ⟨rest, rfl⟩ := start
      exact ⟨gap, tail, apart gap rfl, rfl⟩

/-- Of two matches at one place both begin with the same class of characters. -/
theorem Pattern.Matches.opening_eq_of_append {pattern other : Pattern} {extra : List Char}
    (found : pattern.Matches (chars ++ extra)) (shorter : other.Matches chars) :
    pattern.opening = other.opening := by
  obtain ⟨c, rest, rfl, same⟩ := shorter.begins
  rw [← same]
  exact found.opening_eq List.prefix_rfl

/-- No symbol is followed by a gap within a comment or another symbol. -/
theorem Symbol.not_matches_gap {pattern : Pattern} {symbol : Symbol} {tail : List Char}
    (gap : isGap c) : ¬ pattern.Matches (symbol.spelling ++ c :: tail) := by
  intro found
  rcases found.of_mark (found.opening_eq_of_append (.symbol symbol)) with
    ⟨other, same⟩ | ⟨content, -, same⟩
  · exact other.not_isGap c (by rw [← same]; simp) gap
  · -- Only a slash can begin a comment, and it is followed by another one there.
    cases symbol <;> simp only [spelling, List.cons_append, List.nil_append, List.cons.injEq,
      Char.reduceEq, false_and, and_false] at same
    obtain ⟨-, rfl, -⟩ := same
    exact absurd gap (by decide)

theorem not_matches_gap_of_letter {pattern other : Pattern} {tail : List Char}
    (shorter : other.Matches chars) (letter : other.opening = .letter) (gap : isGap c) :
    ¬ pattern.Matches (chars ++ c :: tail) := by
  intro found
  have parts := found.of_letter ((found.opening_eq_of_append shorter).trans letter)
  exact not_isGap_of_isWordPart (parts c (by simp)) gap

/-- **A token ends where a gap follows it**: no pattern matches more. -/
theorem longest_of_apart (written : kind.WrittenAs chars) (apart : ∀ c ∈ behind.head?, isGap c) :
    Longest chars (chars ++ behind) := by
  intro pattern more found begins
  by_contra longer
  obtain ⟨c, tail, gap, rfl⟩ := exists_gap_of_longer apart begins (Nat.lt_of_not_le longer)
  cases written with
  | symbol symbol => exact Symbol.not_matches_gap gap found
  | keyword keyword => exact not_matches_gap_of_letter (.keyword keyword) rfl gap found
  | identifier letters _ => exact not_matches_gap_of_letter letters rfl gap found
  | @text content closed =>
      have bounded := @longest_text (c :: tail) content closed _ _ found
      exact longer (bounded (by simp))
  | number digits value =>
      obtain ⟨whole, fraction, -, before, after, same⟩ :=
        found.of_digit (found.opening_eq_of_append digits)
      exact Number.not_isGap before after c (by rw [← same]; simp) gap

/-! ## The words of a text -/

namespace Piece

/-- The words among some pieces, if there is nothing but words and layout. -/
def words? : List Piece → Option (List Word)
  | [] => some []
  | token kind chars :: rest => (words? rest).map ((kind, chars) :: ·)
  | layout _ :: rest => words? rest
  | unexpected _ :: _ | unterminated _ :: _ => none

/-- A token is split off where a blank or a line break, or nothing, comes behind it. -/
theorem split_token (written : kind.WrittenAs chars) (apart : ∀ c ∈ behind.head?, isGap c) :
    split (chars ++ behind) = token kind chars :: split behind :=
  split_of_begins (.longest (.token written) (List.prefix_append chars behind)
    (longest_of_apart written apart))

/-- Blanks are split off together. -/
theorem split_spaces (space : isSpace c) :
    split (c :: text) = layout (c :: text.takeWhile isSpace) :: split (text.dropWhile isSpace) := by
  have begins := @begins_spaces c text space
  have whole : c :: text = c :: text.takeWhile isSpace ++ text.dropWhile isSpace := by simp
  rw [whole] at begins ⊢
  exact split_of_begins begins

/-- A blank in front of a text belongs to no word. -/
theorem words?_blank (space : isSpace c) : words? (split (c :: text)) = words? (split text) := by
  rw [split_spaces space, words?]
  cases text with
  | nil => rfl
  | cons d rest =>
      by_cases goesOn : isSpace d
      · rw [List.dropWhile_cons_of_pos goesOn, split_spaces goesOn, words?]
      · rw [List.dropWhile_cons_of_neg goesOn]

/-- A line break before a text adds no word. -/
theorem words?_lineBreak (text : List Char) :
    words? (split ('\n' :: text)) = words? (split text) := by
  have cut : split ('\n' :: text) = layout ['\n'] :: split text := split_of_begins begins_lineBreak
  rw [cut, words?]

/-- A comment ends with its line. -/
theorem words?_comment {content : List Char} (onLine : '\n' ∉ content) (text : List Char) :
    words? (split ('/' :: '/' :: content ++ '\n' :: text)) = words? (split text) := by
  have run : ∀ d ∈ '/' :: content, d != '\n' := by
    intro d inside
    rcases List.mem_cons.mp inside with rfl | inside
    · decide
    · exact bne_of_not_mem onLine d inside
  have begins := @begins_comment (content ++ '\n' :: text)
  rw [← List.cons_append, takeWhile_run run rfl] at begins
  have cut : split ('/' :: '/' :: content ++ '\n' :: text) =
      layout ('/' :: '/' :: content) :: split ('\n' :: text) := split_of_begins begins
  rw [cut, words?, words?_lineBreak]

/-- Layout in front of a text holds no word. -/
theorem words?_layout (between : Layout chars) :
    words? (split (chars ++ text)) = words? (split text) := by
  induction between with
  | nil => rfl
  | @gap c rest gap _ ih =>
      rw [List.cons_append]
      by_cases space : isSpace c
      · rw [words?_blank space, ih]
      · obtain rfl : c = '\n' := by simpa [isGap, space] using gap
        rw [words?_lineBreak, ih]
  | @comment content rest onLine _ ih =>
      rw [List.append_assoc]
      exact (words?_comment onLine (rest ++ text)).trans ih

/-- The words of a text with layout between them are those that it was written with. -/
theorem words?_spaced {words : List Word} (written : ∀ word ∈ words, word.1.WrittenAs word.2)
    (spaced : Spaced words text) : words? (split text) = some words := by
  induction spaced with
  | nil =>
      rw [split]
      rfl
  | @last word =>
      have cut := @split_token word.2 [] word.1 (written word List.mem_cons_self) (by simp)
      rw [List.append_nil] at cut
      rw [cut, split]
      rfl
  | @cons word next words between text separates _ ih =>
      obtain ⟨c, rest, rfl, gap⟩ := separates.begins
      have cut := @split_token word.2 (c :: rest ++ text) word.1
        (written word List.mem_cons_self) (by simpa using gap)
      rw [cut, words?, words?_layout separates.layout,
        ih fun other inside => written other (.tail _ inside)]
      rfl

end Piece

namespace Scan

/-- Where there is nothing but words and layout, the tokens of a scan are the words. -/
theorem ofPieces_of_words {pieces : List Piece} (line : Nat)
    (given : Piece.words? pieces = some words) :
    (ofPieces line pieces).errors = [] ∧
      (ofPieces line pieces).tokens.map (fun token => (token.kind, token.lexeme.toList)) =
        words := by
  induction pieces generalizing line words with
  | nil =>
      cases given
      exact ⟨rfl, rfl⟩
  | cons piece rest ih =>
      cases piece with
      | token kind chars =>
          obtain ⟨others, later, rfl⟩ := Option.map_eq_some_iff.mp given
          obtain ⟨errors, tokens⟩ := ih (line + lineBreaks chars) later
          refine ⟨errors, ?_⟩
          change (kind, (String.ofList chars).toList) :: _ = _
          rw [String.toList_ofList]
          exact congrArg _ tokens
      | layout chars => exact ih _ given
      | unexpected | unterminated => cases given

/-- **Tokens survive every layout.** Words that are written with layout between them, each of them
as such a token may be written, are scanned without an error, and their tokens are these words. -/
theorem ofSource_spaced {words : List Word} {source : String}
    (written : ∀ word ∈ words, word.1.WrittenAs word.2) (spaced : Spaced words source.toList) :
    (ofSource source).errors = [] ∧
      (ofSource source).tokens.map (fun token => (token.kind, token.lexeme.toList)) = words :=
  ofPieces_of_words 1 (Piece.words?_spaced written spaced)

/-- A slash, a text that holds what looks like a comment, a name that begins like a keyword, and a
number. -/
def slashed : List Word :=
  [(.symbol .slash, ['/']), (.text "a\n//", ['"', 'a', '\n', '/', '/', '"']),
    (.identifier "orb", ['o', 'r', 'b']),
    (.number (Number.ofSignAndBits false (Number.ofParts ['1'] ['5'] 0)), ['1', '.', '5'])]

/-- A slash before a comment, a text over two lines, and blanks of three sorts. -/
theorem ofSource_spaced_slashed :
    (∀ word ∈ slashed, word.1.WrittenAs word.2) ∧
      Spaced slashed "/ // \"\n\"a\n//\"\n//\n\torb\r1.5".toList ∧
      (ofSource "/ // \"\n\"a\n//\"\n//\n\torb\r1.5").errors = [] ∧
      (ofSource "/ // \"\n\"a\n//\"\n//\n\torb\r1.5").tokens.map
        (fun token => (token.kind, token.lexeme.toList)) = slashed := by
  have written : ∀ word ∈ slashed, word.1.WrittenAs word.2 := by
    intro word inside
    simp only [slashed, List.mem_cons, List.not_mem_nil, or_false] at inside
    rcases inside with rfl | rfl | rfl | rfl
    · exact .symbol .slash
    · exact @TokenKind.WrittenAs.text ['a', '\n', '/', '/'] (by decide)
    · refine .identifier (.identifier (by decide) (List.all_eq_true.mp (by decide))) ?_
      intro keyword
      cases keyword <;> decide
    · have some : ['1'] ≠ [] := by decide
      have whole : ∀ d ∈ ['1'], isDigit d := List.all_eq_true.mp (by decide)
      have fraction : ∀ d ∈ ['5'], isDigit d := List.all_eq_true.mp (by decide)
      exact @TokenKind.WrittenAs.number (['1'] ++ pointed ['5']) _ (.number some whole fraction)
        (ofChars?_digits some whole fraction)
  have comment : Separates [' ', '/', '/', ' ', '"', '\n'] :=
    ⟨.gap (by decide) (@Layout.comment [' ', '"'] [] (by decide) .nil), ' ', _, rfl, by decide⟩
  have comments : Separates ['\n', '/', '/', '\n', '\t'] :=
    ⟨.gap (by decide) (@Layout.comment [] ['\t'] (by decide) (.gap (by decide) .nil)), '\n', _, rfl,
      by decide⟩
  have blank : Separates ['\r'] := ⟨.gap (by decide) .nil, '\r', _, rfl, by decide⟩
  have spaced : Spaced slashed "/ // \"\n\"a\n//\"\n//\n\torb\r1.5".toList :=
    .cons comment (.cons comments (.cons blank .last))
  exact ⟨written, spaced, ofSource_spaced written spaced⟩

end Scan

end Scriptlet
