import Mathlib.Data.List.TakeWhile
import Scriptlet.Proofs.Token.Pattern

/-!
# The longest match

The first piece of a text is as long as anything that a pattern matches there. Where no pattern
matches, the piece is the rest of the text behind an open quote, or a single character.
-/

namespace Scriptlet

open Piece Number

variable {c : Char} {chars rest text : List Char}

/-- Some characters are as many as any pattern matches at the beginning of a text. -/
def Longest (chars text : List Char) : Prop :=
  ∀ ⦃pattern : Pattern⦄ ⦃more : List Char⦄,
    pattern.Matches more → more <+: text → more.length ≤ chars.length

/-- Nothing at the beginning of a text is matched. -/
def Unmatched (text : List Char) : Prop :=
  ∀ ⦃pattern : Pattern⦄ ⦃more : List Char⦄, pattern.Matches more → ¬ more <+: text

/-- Whether a pattern is that of layout. -/
def Pattern.IsLayout : Pattern → Prop
  | spaces | lineBreak | comment => True
  | symbol _ | keyword _ | identifier | .text | number => False

namespace Piece

/-- A piece that is a token as it is written, or layout. -/
inductive Formed : Piece → Prop
  | token {kind : TokenKind} {chars : List Char} :
      kind.WrittenAs chars → Formed (.token kind chars)
  | layout {pattern : Pattern} {chars : List Char} :
      pattern.IsLayout → pattern.Matches chars → Formed (.layout chars)

/-- The piece with which a text begins: the longest match there, one character where nothing is
matched, or the whole text where it begins with a quote that nothing closes. -/
inductive Begins : Piece → List Char → Prop
  | longest {piece : Piece} {text : List Char} :
      piece.Formed → piece.chars <+: text → Longest piece.chars text → Begins piece text
  | unexpected {char : Char} {rest : List Char} :
      char ≠ '"' → Unmatched (char :: rest) → Begins (.unexpected char) (char :: rest)
  | unterminated {content : List Char} :
      '"' ∉ content → Begins (.unterminated ('"' :: content)) ('"' :: content)

end Piece

/-! ## Patterns at the beginning of a text -/

namespace Pattern

variable {pattern : Pattern} {more : List Char}

/-- What is matched at the beginning of a text begins with its first character. -/
theorem Matches.opening_eq (found : pattern.Matches more) (begins : more <+: c :: rest) :
    pattern.opening = CharClass.of c := by
  obtain ⟨d, inner, rfl, same⟩ := found.begins
  obtain ⟨rfl, -⟩ := List.cons_prefix_cons.mp begins
  exact same.symm

end Pattern

/-- A run of characters is no shorter than any other one at the same place. -/
theorem length_le_takeWhile {test : Char → Bool} (run : ∀ d ∈ chars, test d)
    (begins : chars <+: text) : chars.length ≤ (text.takeWhile test).length := by
  obtain ⟨tail, rfl⟩ := begins
  rw [List.takeWhile_append_of_pos run, List.length_append]
  exact Nat.le_add_right _ _

/-- Blanks are matched to the last one. -/
theorem longest_spaces (space : isSpace c) :
    Longest (c :: rest.takeWhile isSpace) (c :: rest) := by
  intro pattern more found begins
  have opens := (found.opening_eq begins).trans (CharClass.of_space space)
  have run := length_le_takeWhile (found.of_space opens) begins
  rwa [List.takeWhile_cons_of_pos space] at run

/-- A line break is matched alone. -/
theorem longest_lineBreak : Longest ['\n'] ('\n' :: rest) := by
  intro pattern more found begins
  rw [found.of_lineBreak (found.opening_eq begins)]

/-- A word is matched to the last character that may be part of it. -/
theorem longest_word (letter : isWordStart c) :
    Longest (c :: rest.takeWhile isWordPart) (c :: rest) := by
  intro pattern more found begins
  have opens := (found.opening_eq begins).trans (CharClass.of_letter letter)
  have run := length_le_takeWhile (found.of_letter opens) begins
  rwa [List.takeWhile_cons_of_pos (by simp [isWordPart, letter])] at run

/-- A text is matched up to the first quote behind its opening one. -/
theorem longest_text {content : List Char} (closed : '"' ∉ content) :
    Longest ('"' :: content ++ ['"']) ('"' :: content ++ '"' :: rest) := by
  intro pattern more found begins
  obtain ⟨inner, plain, rfl⟩ := found.of_quote (found.opening_eq begins)
  obtain ⟨tail, same⟩ := begins
  have upTo {run : List Char} (noQuote : '"' ∉ run) (behind : List Char) :
      (run ++ '"' :: behind).takeWhile (· != '"') = run :=
    takeWhile_run (bne_of_not_mem noQuote) rfl behind
  have texts : inner ++ '"' :: tail = content ++ '"' :: rest := by simpa using same
  have contents : inner = content := by rw [← upTo plain tail, texts, upTo closed]
  rw [contents]

/-- Digits up to where they end, and a point with all digits behind it. -/
theorem longest_number (digit : isDigit c) :
    Longest (c :: rest.takeWhile isDigit ++ pointed (fraction (rest.dropWhile isDigit)))
      (c :: rest) := by
  intro pattern more found begins
  have opens := (found.opening_eq begins).trans (CharClass.of_digit digit)
  obtain ⟨whole, behind, some, digits, others, rfl⟩ := found.of_digit opens
  rw [← List.takeWhile_cons_of_pos digit, ← List.dropWhile_cons_of_pos digit]
  cases behind with
  | nil =>
      rw [pointed, List.append_nil] at begins ⊢
      have run := length_le_takeWhile digits begins
      rw [List.length_append]
      omega
  | cons d ds =>
      -- The point ends the digits in front of it, so both agree up to there.
      obtain ⟨tail, same⟩ := begins
      have text : c :: rest = whole ++ '.' :: (d :: ds ++ tail) := by rw [← same]; simp [pointed]
      rw [text, takeWhile_run digits (by decide), dropWhile_run digits (by decide), fraction]
      have run := length_le_takeWhile others (List.prefix_append (d :: ds) tail)
      simp only [List.length_append]
      exact Nat.add_le_add_left (length_pointed_le run) _

/-! ## Symbols and comments -/

namespace Symbol

variable {symbol : Symbol}

/-- A symbol is told by how it is spelled. -/
theorem ofSpelling?_eq_some_iff : ofSpelling? chars = some symbol ↔ symbol.spelling = chars := by
  constructor
  · intro found
    rw [ofSpelling?] at found
    simpa using List.find?_some found
  · rintro rfl
    cases symbol <;> decide

/-- A symbol is one character or two. -/
theorem length_spelling (symbol : Symbol) :
    symbol.spelling.length = 1 ∨ symbol.spelling.length = 2 := by
  cases symbol <;> decide

/-- A symbol at the beginning of a text is the first character, or that and the next one. -/
theorem spelling_of_prefix (begins : symbol.spelling <+: c :: rest) :
    symbol.spelling = [c] ∨ symbol.spelling = c :: rest.take 1 := by
  rw [List.prefix_iff_eq_take.mp begins]
  rcases symbol.length_spelling with single | double
  · rw [single]
    exact .inl rfl
  · rw [double]
    exact .inr rfl

end Symbol

/-- The symbol that stands at the beginning of a text is the longest one there. -/
theorem Piece.symbol_cases (c : Char) (rest : List Char) :
    (∃ found : Symbol, symbol c rest = token (.symbol found) found.spelling ∧
      ∀ other : Symbol, other.spelling <+: c :: rest →
        other.spelling.length ≤ found.spelling.length) ∨
    (symbol c rest = unexpected c ∧ ∀ other : Symbol, ¬ other.spelling <+: c :: rest) := by
  unfold symbol
  cases double : Symbol.ofSpelling? (c :: rest.take 1) with
  | some found =>
      have spelled := Symbol.ofSpelling?_eq_some_iff.mp double
      refine .inl ⟨found, by rw [spelled], fun other begins => ?_⟩
      rw [spelled]
      rcases Symbol.spelling_of_prefix begins with same | same <;> rw [same]
      exact Nat.le_add_left 1 _
  | none =>
      -- No symbol is longer than the first character.
      have single (other : Symbol) (begins : other.spelling <+: c :: rest) :
          other.spelling = [c] := by
        rcases Symbol.spelling_of_prefix begins with same | same
        · exact same
        · rw [Symbol.ofSpelling?_eq_some_iff.mpr same] at double
          cases double
      dsimp only
      cases alone : Symbol.ofSpelling? [c] with
      | some found =>
          have spelled := Symbol.ofSpelling?_eq_some_iff.mp alone
          refine .inl ⟨found, by rw [spelled], fun other begins => ?_⟩
          rw [spelled, single other begins]
      | none =>
          refine .inr ⟨rfl, fun other begins => ?_⟩
          rw [Symbol.ofSpelling?_eq_some_iff.mpr (single other begins)] at alone
          cases alone

/-- A comment goes on up to the end of its line. -/
theorem longest_comment :
    Longest ('/' :: ('/' :: rest).takeWhile (· != '\n')) ('/' :: '/' :: rest) := by
  intro pattern more found begins
  rcases found.of_mark (found.opening_eq begins) with ⟨symbol, rfl⟩ | ⟨content, onLine, rfl⟩
  · rcases Symbol.spelling_of_prefix begins with same | same <;> rw [same] <;> simp
  · have all : ∀ d ∈ '/' :: '/' :: content, d != '\n' := by
      intro d inside
      rcases List.mem_cons.mp inside with rfl | inside
      · decide
      rcases List.mem_cons.mp inside with rfl | inside
      · decide
      · exact bne_of_not_mem onLine d inside
    exact length_le_takeWhile all begins

/-- A keyword is told by how it is spelled. -/
theorem Keyword.ofSpelling?_eq_some_iff {keyword : Keyword} :
    Keyword.ofSpelling? chars = some keyword ↔ keyword.spelling = chars := by
  constructor
  · intro found
    rw [Keyword.ofSpelling?] at found
    simpa using List.find?_some found
  · rintro rfl
    cases keyword <;> decide

namespace Piece

/-! ## The first piece of a text -/

/-- What kind of piece begins a text is up to the class of its first character. -/
theorem first_eq (c : Char) (rest : List Char) :
    first c rest =
      match CharClass.of c with
      | .space => layout (c :: rest.takeWhile isSpace)
      | .lineBreak => layout [c]
      | .quote => quoted rest
      | .letter => word (c :: rest.takeWhile isWordPart)
      | .digit => number (c :: rest.takeWhile isDigit) (fraction (rest.dropWhile isDigit))
      | .mark =>
        if c == '/' && rest.head? == some '/' then layout (c :: rest.takeWhile (· != '\n'))
        else symbol c rest := by
  unfold first CharClass.of
  repeat' split
  all_goals first | rfl | contradiction

/-- A number is a token with its value, written with a point if it has a fraction. -/
theorem number_eq (whole fraction : List Char) :
    number whole fraction =
      token (.number (ofSignAndBits false (ofParts whole fraction 0)))
        (whole ++ pointed fraction) := by
  cases fraction <;> simp [number, pointed]

/-- All that a fraction holds is digits. -/
theorem isDigit_of_mem_fraction {d : Char} (inside : d ∈ fraction text) : isDigit d := by
  unfold fraction at inside
  split at inside
  · exact List.mem_takeWhile_imp inside
  · cases inside

/-- A text that begins with a blank begins with all its blanks. -/
theorem begins_spaces (space : isSpace c) :
    (layout (c :: rest.takeWhile isSpace)).Begins (c :: rest) := by
  have run : ∀ d ∈ c :: rest.takeWhile isSpace, isSpace d := by
    rw [← List.takeWhile_cons_of_pos space]
    exact fun d => List.mem_takeWhile_imp
  refine .longest (@Formed.layout .spaces _ trivial (.spaces (List.cons_ne_nil _ _) run)) ?_
    (longest_spaces space)
  exact List.cons_prefix_cons.mpr ⟨rfl, takeWhile_prefix isSpace rest⟩

/-- A text that begins with a line break begins with this piece. -/
theorem begins_lineBreak : (layout ['\n']).Begins ('\n' :: rest) :=
  .longest (@Formed.layout .lineBreak _ trivial .lineBreak) (List.prefix_append ['\n'] rest)
    longest_lineBreak

/-- Two slashes begin a comment up to the end of the line. -/
theorem begins_comment :
    (layout ('/' :: ('/' :: rest).takeWhile (· != '\n'))).Begins ('/' :: '/' :: rest) := by
  have run : '\n' ∉ rest.takeWhile (· != '\n') := fun inside =>
    absurd (List.mem_takeWhile_imp inside) (by decide)
  refine .longest (@Formed.layout .comment _ trivial (.comment run)) ?_ longest_comment
  exact List.cons_prefix_cons.mpr ⟨rfl, takeWhile_prefix (· != '\n') ('/' :: rest)⟩

/-- A letter begins a word: a keyword where it spells one, and a name otherwise. -/
theorem begins_word (letter : isWordStart c) :
    (word (c :: rest.takeWhile isWordPart)).Begins (c :: rest) := by
  have formed : (word (c :: rest.takeWhile isWordPart)).Formed := by
    unfold word
    cases found : Keyword.ofSpelling? (c :: rest.takeWhile isWordPart) with
    | some keyword =>
        rw [← Keyword.ofSpelling?_eq_some_iff.mp found]
        exact .token (.keyword keyword)
    | none =>
        have parts : ∀ d ∈ rest.takeWhile isWordPart, isWordPart d := fun d =>
          List.mem_takeWhile_imp
        refine .token (.identifier (.identifier letter parts) fun keyword same => ?_)
        rw [Keyword.ofSpelling?_eq_some_iff.mpr same] at found
        cases found
  refine .longest formed ?_ ?_
  · rw [chars_word]
    exact List.cons_prefix_cons.mpr ⟨rfl, takeWhile_prefix isWordPart rest⟩
  · rw [chars_word]
    exact longest_word letter

/-- A digit begins a number, with a fraction where a digit comes behind the point. -/
theorem begins_number (digit : isDigit c) :
    (number (c :: rest.takeWhile isDigit) (fraction (rest.dropWhile isDigit))).Begins
      (c :: rest) := by
  have digits : ∀ d ∈ c :: rest.takeWhile isDigit, isDigit d := by
    rw [← List.takeWhile_cons_of_pos digit]
    exact fun d => List.mem_takeWhile_imp
  have behind : ∀ d ∈ fraction (rest.dropWhile isDigit), isDigit d := fun d =>
    isDigit_of_mem_fraction
  have start := chars_number_prefix (c :: rest.takeWhile isDigit) (rest.dropWhile isDigit)
  rw [List.cons_append, List.takeWhile_append_dropWhile] at start
  rw [number_eq] at start ⊢
  refine .longest (.token (.number ?_ ?_)) start (longest_number digit)
  · exact .number (List.cons_ne_nil _ _) digits behind
  · exact ofChars?_digits (List.cons_ne_nil _ _) digits behind

/-- A text ends with the first quote in it. -/
theorem quoted_closed {content : List Char} (plain : '"' ∉ content) (behind : List Char) :
    quoted (content ++ '"' :: behind) =
      token (.text (String.ofList content)) ('"' :: content ++ ['"']) := by
  unfold quoted
  rw [takeWhile_run (bne_of_not_mem plain) rfl]
  simp

/-- A quote begins a text that is closed, or else what is left over. -/
theorem begins_quoted (rest : List Char) : (quoted rest).Begins ('"' :: rest) := by
  by_cases closed : '"' ∈ rest
  · obtain ⟨content, behind, rfl, plain⟩ := List.eq_append_cons_of_mem closed
    rw [quoted_closed plain]
    exact .longest (.token (.text plain)) (by simp [Piece.chars]) (longest_text plain)
  · have whole : rest.takeWhile (· != '"') = rest :=
      List.takeWhile_eq_self_iff.mpr (bne_of_not_mem closed)
    unfold quoted
    rw [whole]
    simp only [List.drop_length, List.isEmpty_nil, ↓reduceIte]
    exact .unterminated closed

/-- What is matched at a mark that begins no comment is a symbol. -/
theorem symbol_of_mark {pattern : Pattern} {more : List Char} (mark : CharClass.of c = .mark)
    (noComment : ¬ (c == '/' && rest.head? == some '/') = true) (found : pattern.Matches more)
    (begins : more <+: c :: rest) : ∃ symbol : Symbol, more = symbol.spelling := by
  rcases found.of_mark ((found.opening_eq begins).trans mark) with isSymbol | ⟨content, -, rfl⟩
  · exact isSymbol
  · obtain ⟨rfl, behind⟩ := List.cons_prefix_cons.mp begins
    obtain ⟨tail, rfl⟩ := behind
    exact absurd rfl noComment

/-- A mark that begins no comment begins the longest symbol there, or is unexpected. -/
theorem begins_symbol (mark : CharClass.of c = .mark)
    (noComment : ¬ (c == '/' && rest.head? == some '/') = true) :
    (symbol c rest).Begins (c :: rest) := by
  rcases symbol_cases c rest with ⟨symbol, piece, longest⟩ | ⟨piece, none⟩
  · have begins := chars_symbol_prefix c rest
    rw [piece] at begins ⊢
    refine .longest (.token (.symbol symbol)) begins fun pattern more found start => ?_
    obtain ⟨other, rfl⟩ := symbol_of_mark mark noComment found start
    exact longest other start
  · have noQuote : c ≠ '"' := by
      rintro rfl
      exact absurd mark (by decide)
    rw [piece]
    refine .unexpected noQuote fun pattern more found start => ?_
    obtain ⟨other, rfl⟩ := symbol_of_mark mark noComment found start
    exact none other start

/-- **The first piece of a text** is the longest match there; failing that, a single character or
an open quote with all that follows. -/
theorem begins_first (c : Char) (rest : List Char) : (first c rest).Begins (c :: rest) := by
  have holds := CharClass.holds_of c
  rw [first_eq]
  cases given : CharClass.of c with
  | space =>
      rw [given] at holds
      exact begins_spaces holds
  | lineBreak =>
      rw [given] at holds
      obtain rfl : c = '\n' := holds
      exact begins_lineBreak
  | quote =>
      rw [given] at holds
      obtain rfl : c = '"' := holds
      exact begins_quoted rest
  | letter =>
      rw [given] at holds
      exact begins_word holds
  | digit =>
      rw [given] at holds
      exact begins_number holds
  | mark =>
      dsimp only
      by_cases comment : (c == '/' && rest.head? == some '/') = true
      · rw [if_pos comment]
        obtain ⟨rfl, behind⟩ : c = '/' ∧ rest.head? = some '/' := by simpa using comment
        obtain ⟨rest, rfl⟩ := List.head?_eq_some_iff.mp behind
        exact begins_comment
      · rw [if_neg comment]
        exact begins_symbol given comment

/-! ## One piece only begins a text -/

/-- What is written as a token or layout is matched by some pattern. -/
theorem Formed.matches {piece : Piece} (formed : piece.Formed) :
    ∃ pattern : Pattern, pattern.Matches piece.chars := by
  cases formed with
  | token written =>
      cases written with
      | symbol symbol => exact ⟨_, .symbol symbol⟩
      | keyword keyword => exact ⟨_, .keyword keyword⟩
      | identifier found _ => exact ⟨_, found⟩
      | text closed => exact ⟨_, .text closed⟩
      | number found _ => exact ⟨_, found⟩
  | layout _ found => exact ⟨_, found⟩

/-- The digits behind the point are the fraction. -/
theorem fraction_pointed {behind : List Char} (digits : ∀ d ∈ behind, isDigit d) :
    fraction (pointed behind) = behind := by
  cases behind with
  | nil => rfl
  | cons d ds => exact List.takeWhile_eq_self_iff.mpr digits

/-- A token that stands alone is scanned as what it is. -/
theorem eq_first_of_writtenAs {kind : TokenKind} (written : kind.WrittenAs (c :: rest)) :
    token kind (c :: rest) = first c rest := by
  generalize whole : c :: rest = chars at written ⊢
  cases written with
  | symbol symbol => cases symbol <;> cases whole <;> rfl
  | keyword keyword => cases keyword <;> cases whole <;> rfl
  | identifier found noKeyword =>
      cases found with
      | identifier letter parts =>
          cases whole
          have none : Keyword.ofSpelling? (c :: rest) = .none := by
            cases given : Keyword.ofSpelling? (c :: rest) with
            | none => rfl
            | some keyword =>
                exact absurd (Keyword.ofSpelling?_eq_some_iff.mp given) (noKeyword keyword)
          rw [first_eq, CharClass.of_letter letter]
          dsimp only
          rw [List.takeWhile_eq_self_iff.mpr parts, word, none]
  | @text content closed =>
      cases whole
      exact (quoted_closed closed []).symm
  | number found value =>
      cases found with
      | @number digits behind some before after =>
          obtain ⟨d, ds, rfl⟩ := List.exists_cons_of_ne_nil some
          rw [List.cons_append, List.cons.injEq] at whole
          obtain ⟨rfl, rfl⟩ := whole
          have digit : isDigit c := before c List.mem_cons_self
          obtain ⟨taken, left⟩ := @takeWhile_pointed _ behind before
          rw [List.cons_append, List.takeWhile_cons_of_pos digit] at taken
          rw [List.cons_append, List.dropWhile_cons_of_pos digit] at left
          cases value.symm.trans (ofChars?_digits some before after)
          rw [first_eq, CharClass.of_digit digit]
          dsimp only
          rw [taken, left, fraction_pointed after, number_eq]

/-- Nothing is matched at a quote that nothing closes. -/
theorem unmatched_of_open {content : List Char} (isOpen : '"' ∉ content) :
    Unmatched ('"' :: content) := by
  intro pattern more found begins
  obtain ⟨inner, -, rfl⟩ := found.of_quote (found.opening_eq begins)
  obtain ⟨-, behind⟩ := List.cons_prefix_cons.mp begins
  exact isOpen (behind.subset (by simp))

/-- Layout that stands alone is scanned as what it is. -/
theorem eq_first_of_layout {pattern : Pattern} (isLayout : pattern.IsLayout)
    (found : pattern.Matches (c :: rest)) : layout (c :: rest) = first c rest := by
  generalize whole : c :: rest = chars at found ⊢
  cases found with
  | spaces _ blank =>
      cases whole
      rw [first_eq, CharClass.of_space (blank c List.mem_cons_self)]
      dsimp only
      rw [List.takeWhile_eq_self_iff.mpr fun d inside => blank d (.tail c inside)]
  | lineBreak => cases whole; rfl
  | @comment content onLine =>
      cases whole
      change _ = layout ('/' :: ('/' :: content).takeWhile (· != '\n'))
      rw [List.takeWhile_cons_of_pos (by decide),
        List.takeWhile_eq_self_iff.mpr (bne_of_not_mem onLine)]
  | symbol | keyword | identifier | text | number => exact isLayout.elim

/-- A text that is one piece alone begins with this piece. -/
theorem Formed.eq_first {piece : Piece} (formed : piece.Formed) (alone : piece.chars = c :: rest) :
    piece = first c rest := by
  cases formed with
  | token written =>
      obtain rfl := alone
      exact eq_first_of_writtenAs written
  | layout isLayout found =>
      obtain rfl := alone
      exact eq_first_of_layout isLayout found

/-- A piece is told by its characters: no two tokens are written alike, and no token is written as
layout. -/
theorem Formed.eq_of_chars {piece other : Piece} (formed : piece.Formed) (also : other.Formed)
    (same : piece.chars = other.chars) : piece = other := by
  obtain ⟨pattern, found⟩ := formed.matches
  obtain ⟨c, rest, chars, -⟩ := found.begins
  rw [formed.eq_first chars, also.eq_first (same.symm.trans chars)]

/-- **No two pieces begin the same text.** -/
theorem Begins.unique {piece other : Piece} (one : piece.Begins text) (two : other.Begins text) :
    piece = other := by
  cases one with
  | longest formed start longest =>
      obtain ⟨pattern, found⟩ := formed.matches
      cases two with
      | longest also begins longer =>
          obtain ⟨another, foundToo⟩ := also.matches
          have shorter := List.prefix_of_prefix_length_le start begins (longer found start)
          exact formed.eq_of_chars also (shorter.eq_of_length_le (longest foundToo begins))
      | unexpected _ none => exact absurd start (none found)
      | unterminated isOpen => exact absurd start (unmatched_of_open isOpen found)
  | unexpected noQuote none =>
      cases two with
      | longest also begins longer =>
          obtain ⟨another, found⟩ := also.matches
          exact absurd begins (none found)
      | unexpected _ _ => rfl
      | unterminated _ => exact absurd rfl noQuote
  | unterminated isOpen =>
      cases two with
      | longest also begins longer =>
          obtain ⟨another, found⟩ := also.matches
          exact absurd begins (unmatched_of_open isOpen found)
      | unexpected noQuote _ => exact absurd rfl noQuote
      | unterminated _ => rfl

end Piece

end Scriptlet
