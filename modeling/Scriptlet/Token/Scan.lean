import Scriptlet.Token.Piece
import Scriptlet.SyntaxError

/-!
# The tokens of a source text

A source text gives the tokens of its pieces and an error for every piece that is none, each with
the line on which its piece ends.
-/

namespace Scriptlet

/-- The tokens and the errors of a text. -/
structure Scan where
  tokens : List Token
  errors : List SyntaxError

/-- The number of line breaks among some characters. -/
def lineBreaks (chars : List Char) : Nat :=
  chars.count '\n'

namespace Scan

/-- A scan behind a piece that ends on `line`. -/
def behind (scan : Scan) (line : Nat) : Piece → Scan
  | .token kind chars => ⟨⟨kind, String.ofList chars, line⟩ :: scan.tokens, scan.errors⟩
  | .layout _ => scan
  | .unexpected _ => ⟨scan.tokens, ⟨line, .unplaced, .unexpectedCharacter⟩ :: scan.errors⟩
  | .unterminated _ => ⟨scan.tokens, ⟨line, .unplaced, .unterminatedText⟩ :: scan.errors⟩

/-- The scan of some pieces that begin on `line`. -/
def ofPieces (line : Nat) : List Piece → Scan
  | [] => ⟨[], []⟩
  | piece :: rest =>
    let line := line + lineBreaks piece.chars
    (ofPieces line rest).behind line piece

/-- The scan of a source text. -/
def ofSource (source : String) : Scan :=
  ofPieces 1 (Piece.split source.toList)

end Scan

end Scriptlet
