import Scriptlet.Proofs.Token.LongestMatch

/-!
# The division of a source text

A source text is divided into pieces in one way only. Its scan is that of the pieces: nothing of the
text is lost, and each token and each error stands on the line on which its piece ends.
-/

namespace Scriptlet

namespace Piece

variable {text behind : List Char} {piece : Piece} {pieces : List Piece}

/-- A text that is cut into pieces, each of which begins what is left of it. -/
inductive Divided : List Char → List Piece → Prop
  | nil : Divided [] []
  | cons {piece : Piece} {behind : List Char} {pieces : List Piece} :
      piece.Begins (piece.chars ++ behind) → Divided behind pieces →
      Divided (piece.chars ++ behind) (piece :: pieces)

/-- A piece that begins a text takes a character at least. -/
theorem Begins.chars_ne_nil (begins : piece.Begins text) : piece.chars ≠ [] := by
  cases begins with
  | longest formed _ _ =>
      obtain ⟨pattern, found⟩ := formed.matches
      obtain ⟨c, rest, chars, -⟩ := found.begins
      rw [chars]
      exact List.cons_ne_nil c rest
  | unexpected _ _ => exact List.cons_ne_nil _ _
  | unterminated _ => exact List.cons_ne_nil _ _

/-- A piece that begins a text is the first of its pieces. -/
theorem split_of_begins (begins : piece.Begins (piece.chars ++ behind)) :
    split (piece.chars ++ behind) = piece :: split behind := by
  obtain ⟨c, inner, chars⟩ := List.exists_cons_of_ne_nil begins.chars_ne_nil
  have same : piece = first c (inner ++ behind) := by
    rw [chars] at begins
    exact begins.unique (begins_first c (inner ++ behind))
  rw [chars, List.cons_append, split, ← same, chars]
  simp

/-- The pieces that a text is split into divide it. -/
theorem divided_split (text : List Char) : Divided text (split text) := by
  fun_induction split text with
  | case1 => exact .nil
  | case2 c rest piece ih =>
      have begins := begins_first c rest
      rw [← chars_first_append c rest] at begins ⊢
      exact .cons begins ih

/-- **No other pieces divide a text** than those that it is split into. -/
theorem Divided.eq_split (divided : Divided text pieces) : pieces = split text := by
  induction divided with
  | nil => rw [split]
  | cons begins _ ih => rw [split_of_begins begins, ← ih]

/-- No piece of a divided text is empty. -/
theorem Divided.chars_ne_nil (divided : Divided text pieces) :
    ∀ piece ∈ pieces, piece.chars ≠ [] := by
  induction divided with
  | nil => exact fun _ inside => absurd inside List.not_mem_nil
  | cons begins _ ih =>
      intro other inside
      rcases List.mem_cons.mp inside with rfl | inside
      · exact begins.chars_ne_nil
      · exact ih other inside

/-! ## The lines of pieces -/

/-- The pieces of a text that begins on `line`, each with the line on which it ends: further down
by the line breaks in the text up to there. -/
def ending (line : Nat) (pieces : List Piece) : List (Nat × Piece) :=
  pieces.mapIdx fun index piece =>
    (line + lineBreaks ((pieces.take (index + 1)).flatMap chars), piece)

/-- The token that a piece is, where it ends on `line`. -/
def token? (line : Nat) : Piece → Option Token
  | token kind chars => some ⟨kind, String.ofList chars, line⟩
  | layout _ | unexpected _ | unterminated _ => none

/-- The error that a piece is, where it ends on `line`. -/
def error? (line : Nat) : Piece → Option SyntaxError
  | token _ _ | layout _ => none
  | unexpected _ => some ⟨line, .unplaced, .unexpectedCharacter⟩
  | unterminated _ => some ⟨line, .unplaced, .unterminatedText⟩

/-- Behind a piece, the lines go on from where it ends. -/
theorem ending_cons (line : Nat) (piece : Piece) (pieces : List Piece) :
    ending line (piece :: pieces) =
      (line + lineBreaks piece.chars, piece) :: ending (line + lineBreaks piece.chars) pieces := by
  simp [ending, List.mapIdx_cons, lineBreaks, Nat.add_assoc]

end Piece

namespace Scan

/-- The scan of some pieces is what each of them is on the line where it ends. -/
theorem ofPieces_eq (line : Nat) (pieces : List Piece) :
    ofPieces line pieces =
      ⟨(Piece.ending line pieces).filterMap fun ended => ended.2.token? ended.1,
        (Piece.ending line pieces).filterMap fun ended => ended.2.error? ended.1⟩ := by
  induction pieces generalizing line with
  | nil => rfl
  | cons piece rest ih =>
      rw [ofPieces, ih, Piece.ending_cons]
      cases piece <;> rfl

/-- **A scan loses nothing and counts lines exactly.** A source text is divided into pieces, in one
way only. Its tokens are the pieces that are tokens, in their order, and its errors the pieces that
are errors, each on the line on which the piece ends. -/
theorem ofSource_divided (source : String) :
    ∃ pieces : List Piece,
      Piece.Divided source.toList pieces ∧
      (∀ others, Piece.Divided source.toList others → others = pieces) ∧
      pieces.flatMap Piece.chars = source.toList ∧
      (∀ piece ∈ pieces, piece.chars ≠ []) ∧
      (ofSource source).tokens =
        (Piece.ending 1 pieces).filterMap (fun ended => ended.2.token? ended.1) ∧
      (ofSource source).errors =
        (Piece.ending 1 pieces).filterMap (fun ended => ended.2.error? ended.1) := by
  have divided := Piece.divided_split source.toList
  refine ⟨Piece.split source.toList, divided, fun others => Piece.Divided.eq_split,
    Piece.flatMap_chars_split source.toList, divided.chars_ne_nil, ?_, ?_⟩
  · rw [ofSource, ofPieces_eq]
  · rw [ofSource, ofPieces_eq]

end Scan

end Scriptlet
