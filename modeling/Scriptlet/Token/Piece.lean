import Scriptlet.Token.Basic
import Scriptlet.Number.Reading

/-!
# Pieces of a source text

A source text is a sequence of pieces: tokens, layout between them, characters that begin no piece,
and at the very end perhaps a text whose closing quote is missing. Each piece is the longest that
can begin where it begins, and a keyword is no identifier.
-/

namespace Scriptlet

/-- A piece of a source text. -/
inductive Piece where
  | token (kind : TokenKind) (chars : List Char)
  | layout (chars : List Char)
  | unexpected (char : Char)
  | unterminated (chars : List Char)

namespace Piece

/-- The characters of a piece. -/
def chars : Piece → List Char
  | token _ chars => chars
  | layout chars => chars
  | unexpected char => [char]
  | unterminated chars => chars

/-- A character of layout within a line. -/
def isSpace (c : Char) : Bool :=
  c == ' ' || c == '\t' || c == '\r' || c == '\x0c'

/-- A character that may begin a word. -/
def isWordStart (c : Char) : Bool :=
  ('a' ≤ c && c ≤ 'z') || ('A' ≤ c && c ≤ 'Z') || c == '_'

/-- A character that may stand inside a word. -/
def isWordPart (c : Char) : Bool :=
  isWordStart c || Number.isDigit c

/-- The token that a word is. -/
def word (chars : List Char) : Piece :=
  match Keyword.ofSpelling? chars with
  | some keyword => token (.keyword keyword) chars
  | none => token (.identifier (String.ofList chars)) chars

/-- The digits after a point, if at least one stands there. -/
def fraction : List Char → List Char
  | '.' :: rest => rest.takeWhile Number.isDigit
  | _ => []

/-- The number with the given digits before and after the point. -/
def number (whole fraction : List Char) : Piece :=
  let value := Number.ofSignAndBits false (Number.ofParts whole fraction 0)
  token (.number value) (if fraction.isEmpty then whole else whole ++ '.' :: fraction)

/-- The symbol that begins with two given characters, or else with the first of them. -/
def symbol (first : Char) (rest : List Char) : Piece :=
  match Symbol.ofSpelling? (first :: rest.take 1) with
  | some symbol => token (.symbol symbol) (first :: rest.take 1)
  | none =>
    match Symbol.ofSpelling? [first] with
    | some symbol => token (.symbol symbol) [first]
    | none => unexpected first

/-- The text that a quote begins. -/
def quoted (rest : List Char) : Piece :=
  let content := rest.takeWhile (· != '"')
  if (rest.drop content.length).isEmpty then unterminated ('"' :: rest)
  else token (.text (String.ofList content)) ('"' :: content ++ ['"'])

/-- The piece that begins a text of at least one character. -/
def first (c : Char) (rest : List Char) : Piece :=
  if isSpace c then layout (c :: rest.takeWhile isSpace)
  else if c == '\n' then layout [c]
  else if c == '"' then quoted rest
  else if isWordStart c then word (c :: rest.takeWhile isWordPart)
  else if Number.isDigit c then
    number (c :: rest.takeWhile Number.isDigit) (fraction (rest.dropWhile Number.isDigit))
  else if c == '/' && rest.head? == some '/' then layout (c :: rest.takeWhile (· != '\n'))
  else symbol c rest

theorem takeWhile_prefix (test : Char → Bool) (chars : List Char) :
    chars.takeWhile test <+: chars :=
  ⟨chars.dropWhile test, List.takeWhile_append_dropWhile⟩

theorem chars_word (chars : List Char) : (word chars).chars = chars := by
  unfold word
  split <;> rfl

theorem chars_number_prefix (digits rest : List Char) :
    (number digits (fraction rest)).chars <+: digits ++ rest := by
  cases rest with
  | nil => simp [number, fraction, Piece.chars]
  | cons c rest =>
    by_cases point : c = '.'
    · subst point
      have inside := takeWhile_prefix Number.isDigit rest
      by_cases bare : rest.takeWhile Number.isDigit = []
      · simp [number, fraction, Piece.chars, bare]
      · simpa [number, fraction, Piece.chars, bare, List.prefix_append_right_inj] using inside
    · simp [number, fraction, Piece.chars, point]

theorem chars_symbol_prefix (first : Char) (rest : List Char) :
    (symbol first rest).chars <+: first :: rest := by
  unfold symbol
  split
  · simpa [Piece.chars] using List.take_prefix 1 rest
  · split <;> simp [Piece.chars]

theorem chars_quoted_prefix (rest : List Char) : (quoted rest).chars <+: '"' :: rest := by
  have parts : rest.takeWhile (· != '"') ++ rest.dropWhile (· != '"') = rest :=
    List.takeWhile_append_dropWhile
  unfold quoted
  dsimp only
  split
  · exact List.prefix_rfl
  · next open_ =>
    have behind := @List.drop_left Char (rest.takeWhile (· != '"'))
      (rest.dropWhile (· != '"'))
    rw [parts] at behind
    have left : rest.dropWhile (· != '"') ≠ [] := fun none => open_ (by rw [behind, none]; rfl)
    obtain ⟨c, tail, found⟩ := List.exists_cons_of_ne_nil left
    have quote : c = '"' := by
      have stopped := List.head?_dropWhile_not (· != '"') rest
      rw [found] at stopped
      simpa using stopped
    subst quote
    exact ⟨tail, by simp [Piece.chars, ← found]⟩

/-- The first piece of a text is where the text begins. -/
theorem chars_first_prefix (c : Char) (rest : List Char) : (first c rest).chars <+: c :: rest := by
  unfold first
  split
  · simpa [Piece.chars] using takeWhile_prefix isSpace rest
  split
  · simp [Piece.chars]
  split
  · next quote =>
    obtain rfl : c = '"' := by simpa using quote
    exact chars_quoted_prefix rest
  split
  · simpa [chars_word] using takeWhile_prefix isWordPart rest
  split
  · have := chars_number_prefix (c :: rest.takeWhile Number.isDigit)
      (rest.dropWhile Number.isDigit)
    simpa using this
  split
  · simpa [Piece.chars] using takeWhile_prefix (· != '\n') rest
  · exact chars_symbol_prefix c rest

theorem chars_first_ne_nil (c : Char) (rest : List Char) : (first c rest).chars ≠ [] := by
  unfold first quoted number symbol word
  dsimp only
  repeat' split
  all_goals simp [Piece.chars]

/-- The pieces of a text. -/
def split : List Char → List Piece
  | [] => []
  | c :: rest =>
    let piece := first c rest
    piece :: split (rest.drop (piece.chars.length - 1))
termination_by text => text.length
decreasing_by simp only [List.length_drop, List.length_cons]; omega

theorem chars_first_append (c : Char) (rest : List Char) :
    (first c rest).chars ++ rest.drop ((first c rest).chars.length - 1) = c :: rest := by
  obtain ⟨tail, whole⟩ := chars_first_prefix c rest
  cases begun : (first c rest).chars with
  | nil => exact absurd begun (chars_first_ne_nil c rest)
  | cons d inner =>
    rw [begun, List.cons_append, List.cons.injEq] at whole
    obtain ⟨rfl, rfl⟩ := whole
    simp

/-- The pieces of a text are the whole text. -/
theorem flatMap_chars_split (text : List Char) : (split text).flatMap chars = text := by
  fun_induction split text with
  | case1 => rfl
  | case2 c rest piece ih =>
    rw [List.flatMap_cons, ih]
    exact chars_first_append c rest

end Piece

end Scriptlet
