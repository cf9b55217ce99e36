import Scriptlet.Proofs.Number.Digits
import Scriptlet.Token.Scan

/-!
# What tokens and layout look like

The patterns of the language, each by the characters that it matches. With which character they
begin tells most of them apart: no more than two patterns, a word and a keyword or a symbol and a
comment, can begin at the same place.
-/

namespace Scriptlet

open Piece Number

/-- A kind of token or of layout. -/
inductive Pattern where
  | symbol (symbol : Symbol)
  | keyword (keyword : Keyword)
  | identifier
  | text
  | number
  | spaces
  | lineBreak
  | comment

namespace Pattern

/-- The characters that a pattern matches. -/
inductive Matches : Pattern → List Char → Prop
  | symbol (symbol : Symbol) : Matches (.symbol symbol) symbol.spelling
  | keyword (keyword : Keyword) : Matches (.keyword keyword) keyword.spelling
  | identifier {c : Char} {rest : List Char} :
      isWordStart c → (∀ d ∈ rest, isWordPart d) → Matches .identifier (c :: rest)
  | text {content : List Char} : '"' ∉ content → Matches .text ('"' :: content ++ ['"'])
  | number {whole fraction : List Char} :
      whole ≠ [] → (∀ d ∈ whole, isDigit d) → (∀ d ∈ fraction, isDigit d) →
      Matches .number (whole ++ pointed fraction)
  | spaces {chars : List Char} : chars ≠ [] → (∀ d ∈ chars, isSpace d) → Matches .spaces chars
  | lineBreak : Matches .lineBreak ['\n']
  | comment {content : List Char} : '\n' ∉ content → Matches .comment ('/' :: '/' :: content)

end Pattern

/-- How a token is written. What spells a keyword is no identifier. -/
inductive TokenKind.WrittenAs : TokenKind → List Char → Prop
  | symbol (symbol : Symbol) : WrittenAs (.symbol symbol) symbol.spelling
  | keyword (keyword : Keyword) : WrittenAs (.keyword keyword) keyword.spelling
  | identifier {chars : List Char} :
      Pattern.identifier.Matches chars → (∀ keyword : Keyword, keyword.spelling ≠ chars) →
      WrittenAs (.identifier (String.ofList chars)) chars
  | text {content : List Char} :
      '"' ∉ content → WrittenAs (.text (String.ofList content)) ('"' :: content ++ ['"'])
  | number {chars : List Char} {value : Float} :
      Pattern.number.Matches chars → ofChars? chars = some value → WrittenAs (.number value) chars

/-- What a piece of a text can begin with. -/
inductive CharClass where
  | space | lineBreak | quote | letter | digit | mark
  deriving DecidableEq

namespace CharClass

/-- The class of a character. -/
def of (c : Char) : CharClass :=
  if isSpace c then space
  else if c == '\n' then lineBreak
  else if c == '"' then quote
  else if isWordStart c then letter
  else if isDigit c then digit
  else mark

/-- What the characters of a class have in common. -/
def Holds : CharClass → Char → Prop
  | space, c => isSpace c
  | lineBreak, c => c = '\n'
  | quote, c => c = '"'
  | letter, c => isWordStart c
  | digit, c => isDigit c
  | mark, _ => True

/-- A character is as all of its class are. -/
theorem holds_of (c : Char) : (of c).Holds c := by
  unfold of
  repeat' split
  all_goals simp_all [Holds]

end CharClass

/-- There are four blanks. -/
theorem eq_of_isSpace {c : Char} (space : isSpace c) :
    c = ' ' ∨ c = '\t' ∨ c = '\r' ∨ c = '\x0c' := by
  simpa [isSpace, or_assoc] using space

/-- No word goes on over a blank, a line break or a quote. -/
theorem ne_of_isWordPart {c : Char} (part : isWordPart c) :
    ¬ isSpace c ∧ c ≠ '\n' ∧ c ≠ '"' := by
  refine ⟨fun space => ?_, ?_, ?_⟩
  · rcases eq_of_isSpace space with rfl | rfl | rfl | rfl <;> exact absurd part (by decide)
  · rintro rfl
    exact absurd part (by decide)
  · rintro rfl
    exact absurd part (by decide)

theorem not_isWordStart_of_isDigit {c : Char} (digit : isDigit c) : ¬ isWordStart c := by
  simp only [isDigit, isWordStart, Bool.and_eq_true, Bool.or_eq_true, decide_eq_true_eq,
    beq_iff_eq, Char.le_def, UInt32.le_iff_toNat_le] at digit ⊢
  have below : c.val.toNat ≤ 57 := digit.2
  rintro ((letter | letter) | rfl)
  · have above : 97 ≤ c.val.toNat := letter.1
    omega
  · have above : 65 ≤ c.val.toNat := letter.1
    omega
  · exact absurd below (by decide)

namespace CharClass

variable {c : Char}

/-- Blanks are in the class of blanks. -/
theorem of_space (space : isSpace c) : of c = .space := by
  rw [of, if_pos space]

/-- Letters, and what else may begin a word, are in the class of letters. -/
theorem of_letter (letter : isWordStart c) : of c = .letter := by
  obtain ⟨noSpace, noBreak, noQuote⟩ := ne_of_isWordPart (c := c) (by simp [isWordPart, letter])
  rw [of, if_neg noSpace, if_neg (by simpa using noBreak), if_neg (by simpa using noQuote),
    if_pos letter]

/-- Digits are in the class of digits. -/
theorem of_digit (digit : isDigit c) : of c = .digit := by
  obtain ⟨noSpace, noBreak, noQuote⟩ := ne_of_isWordPart (c := c) (by simp [isWordPart, digit])
  rw [of, if_neg noSpace, if_neg (by simpa using noBreak), if_neg (by simpa using noQuote),
    if_neg (not_isWordStart_of_isDigit digit), if_pos digit]

end CharClass

namespace Pattern

variable {pattern : Pattern} {chars : List Char}

/-- The class of the characters that begin what a pattern matches. -/
def opening : Pattern → CharClass
  | symbol _ | comment => .mark
  | keyword _ | identifier => .letter
  | text => .quote
  | number => .digit
  | spaces => .space
  | lineBreak => .lineBreak

/-- What a pattern matches begins with a character of its class. -/
theorem Matches.begins (found : pattern.Matches chars) :
    ∃ c rest, chars = c :: rest ∧ CharClass.of c = pattern.opening := by
  cases found with
  | symbol symbol => cases symbol <;> exact ⟨_, _, rfl, by decide⟩
  | keyword keyword => cases keyword <;> exact ⟨_, _, rfl, by decide⟩
  | identifier letter _ => exact ⟨_, _, rfl, CharClass.of_letter letter⟩
  | text _ => exact ⟨_, _, rfl, by decide⟩
  | @number whole fraction some digits _ =>
      obtain ⟨c, rest, rfl⟩ := List.exists_cons_of_ne_nil some
      exact ⟨c, rest ++ pointed fraction, rfl, CharClass.of_digit (digits c List.mem_cons_self)⟩
  | spaces some blank =>
      obtain ⟨c, rest, rfl⟩ := List.exists_cons_of_ne_nil some
      exact ⟨c, rest, rfl, CharClass.of_space (blank c List.mem_cons_self)⟩
  | lineBreak => exact ⟨_, _, rfl, by decide⟩
  | comment _ => exact ⟨_, _, rfl, by decide⟩

/-! ## What can stand behind a first character -/

/-- What begins with a blank is all blanks. -/
theorem Matches.of_space (found : pattern.Matches chars) (opens : pattern.opening = .space) :
    ∀ d ∈ chars, isSpace d := by
  cases found with
  | spaces _ blank => exact blank
  | symbol | keyword | identifier | text | number | lineBreak | comment => cases opens

/-- What begins with a line break is this line break. -/
theorem Matches.of_lineBreak (found : pattern.Matches chars)
    (opens : pattern.opening = .lineBreak) : chars = ['\n'] := by
  cases found with
  | lineBreak => rfl
  | symbol | keyword | identifier | text | number | spaces | comment => cases opens

/-- What begins with a quote is a text without quotes inside of it, and the quote that closes it. -/
theorem Matches.of_quote (found : pattern.Matches chars) (opens : pattern.opening = .quote) :
    ∃ content, '"' ∉ content ∧ chars = '"' :: content ++ ['"'] := by
  cases found with
  | text closed => exact ⟨_, closed, rfl⟩
  | symbol | keyword | identifier | number | spaces | lineBreak | comment => cases opens

/-- What begins with a letter is a word, a keyword or a name. -/
theorem Matches.of_letter (found : pattern.Matches chars) (opens : pattern.opening = .letter) :
    ∀ d ∈ chars, isWordPart d := by
  cases found with
  | keyword keyword => exact List.all_eq_true.mp (by cases keyword <;> decide)
  | @identifier c rest letter parts =>
      intro d inside
      rcases List.mem_cons.mp inside with rfl | inside
      · simp [isWordPart, letter]
      · exact parts d inside
  | symbol | text | number | spaces | lineBreak | comment => cases opens

/-- What begins with a digit is a number, with a fraction or without. -/
theorem Matches.of_digit (found : pattern.Matches chars) (opens : pattern.opening = .digit) :
    ∃ whole fraction, whole ≠ [] ∧ (∀ d ∈ whole, isDigit d) ∧ (∀ d ∈ fraction, isDigit d) ∧
      chars = whole ++ pointed fraction := by
  cases found with
  | number some digits behind => exact ⟨_, _, some, digits, behind, rfl⟩
  | symbol | keyword | identifier | text | spaces | lineBreak | comment => cases opens

/-- What begins with a mark is a symbol or a comment. -/
theorem Matches.of_mark (found : pattern.Matches chars) (opens : pattern.opening = .mark) :
    (∃ symbol : Symbol, chars = symbol.spelling) ∨
      ∃ content, '\n' ∉ content ∧ chars = '/' :: '/' :: content := by
  cases found with
  | symbol symbol => exact .inl ⟨symbol, rfl⟩
  | comment onLine => exact .inr ⟨_, onLine, rfl⟩
  | keyword | identifier | text | number | spaces | lineBreak => cases opens

end Pattern

end Scriptlet
