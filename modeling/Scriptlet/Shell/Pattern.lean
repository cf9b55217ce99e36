import Scriptlet.Shell.Octets

/-!
# Patterns of names

A pattern stands for whole texts. It is made of glyphs, which are characters that know whether they
are taken as they are.
-/

namespace Scriptlet.Shell

/-- A character, and whether it is taken as it is. -/
structure Glyph where
  char : Char
  fixed : Bool
  deriving DecidableEq

/-- A class of characters: those in some ranges, and those of some named kinds. -/
structure CharClass where
  negated : Bool
  ranges : List (Char × Char)
  kinds : List String

/-- Whether a character is of a named kind. -/
def isOfKind (kind : String) (c : Char) : Bool :=
  let isGraph := '!' ≤ c && c ≤ '~'
  match kind with
  | "alnum" => c.isAlphanum
  | "alpha" => c.isAlpha
  | "blank" => c == ' ' || c == '\t'
  | "cntrl" => c < ' ' || c == '\x7f'
  | "digit" => c.isDigit
  | "graph" => isGraph
  | "lower" => c.isLower
  | "print" => isGraph || c == ' '
  | "punct" => isGraph && !c.isAlphanum
  | "space" => isBlankOctet c
  | "upper" => c.isUpper
  | "xdigit" => isHex c
  | _ => false

/-- The named kinds of characters. -/
def kindNames : List String :=
  ["alnum", "alpha", "blank", "cntrl", "digit", "graph", "lower", "print", "punct", "space",
    "upper", "xdigit"]

namespace CharClass

/-- Whether a character is in a class. -/
def takes (found : CharClass) (c : Char) : Bool :=
  (found.ranges.any (fun (low, high) => low ≤ c && c ≤ high) ||
    found.kinds.any (isOfKind · c)) != found.negated

/-- A named kind between colons, behind the bracket that begins it, and what follows it. -/
def kind? (glyphs : List Glyph) : Option (String × List Glyph) :=
  match glyphs with
  | ⟨':', false⟩ :: rest =>
    let name := String.ofList ((rest.takeWhile fun glyph => glyph.char.isAlpha).map (·.char))
    match rest.drop name.length with
    | ⟨':', false⟩ :: ⟨']', false⟩ :: rest =>
      if kindNames.contains name then some (name, rest) else none
    | _ => none
  | _ => none

/-- The members of a class up to the bracket that closes it, and what follows that. A closing
bracket in the first place stands for itself. -/
def members? (bound : Nat) (first : Bool) (glyphs : List Glyph) :
    Option (List (Char × Char) × List String × List Glyph) :=
  match bound with
  | 0 => none
  | bound + 1 =>
    match glyphs with
    | [] => none
    | ⟨']', false⟩ :: rest => if first then single bound ']' rest else some ([], [], rest)
    | ⟨'[', false⟩ :: rest =>
      match kind? rest with
      | some (kind, rest) => do
        let (ranges, kinds, rest) ← members? bound false rest
        return (ranges, kind :: kinds, rest)
      | none => single bound '[' rest
    | glyph :: rest => single bound glyph.char rest
where
  /-- The members of a class whose next one begins with a character. -/
  single (bound : Nat) (low : Char) (rest : List Glyph) :
      Option (List (Char × Char) × List String × List Glyph) := do
    match rest with
    | ⟨'-', false⟩ :: high :: behind =>
      if high = ⟨']', false⟩ then
        let (ranges, kinds, rest) ← members? bound false rest
        return ((low, low) :: ranges, kinds, rest)
      else
        let (ranges, kinds, rest) ← members? bound false behind
        return ((low, high.char) :: ranges, kinds, rest)
    | rest =>
      let (ranges, kinds, rest) ← members? bound false rest
      return ((low, low) :: ranges, kinds, rest)

/-- The class between brackets, behind the opening one, and what follows it. -/
def ofGlyphs? (glyphs : List Glyph) : Option (CharClass × List Glyph) := do
  let negated := glyphs.head? = some ⟨'!', false⟩
  let (ranges, kinds, rest) ←
    members? (glyphs.length + 1) true (if negated then glyphs.drop 1 else glyphs)
  return (⟨negated, ranges, kinds⟩, rest)

end CharClass

/-- An item of a pattern: a character, any character, one of a class, or any number of any. -/
inductive Joker where
  | one (c : Char)
  | anyOne
  | among (found : CharClass)
  | anyNumber

/-- A pattern of names. -/
abbrev NamePattern : Type := List Joker

/-- The glyphs in which no backslash escapes another character any more. -/
def settled : List Glyph → List Glyph
  | ⟨'\\', false⟩ :: escaped :: rest => ⟨escaped.char, true⟩ :: settled rest
  | ⟨'\\', false⟩ :: [] => [⟨'\\', true⟩]
  | glyph :: rest => glyph :: settled rest
  | [] => []

namespace NamePattern

/-- The items that settled glyphs spell. -/
def items (bound : Nat) (glyphs : List Glyph) : NamePattern :=
  match bound, glyphs with
  | 0, _ | _, [] => []
  | bound + 1, ⟨'*', false⟩ :: rest => .anyNumber :: items bound rest
  | bound + 1, ⟨'?', false⟩ :: rest => .anyOne :: items bound rest
  | bound + 1, ⟨'[', false⟩ :: rest =>
    match CharClass.ofGlyphs? rest with
    | some (found, rest) => .among found :: items bound rest
    | none => .one '[' :: items bound rest
  | bound + 1, glyph :: rest => .one glyph.char :: items bound rest

/-- The pattern that some glyphs spell. -/
def ofGlyphs (glyphs : List Glyph) : NamePattern :=
  items (glyphs.length + 1) (settled glyphs)

/-- Whether a pattern stands for some characters. -/
def covers : NamePattern → List Char → Bool
  | [], chars => chars.isEmpty
  | [.anyNumber], _ => true
  | .anyNumber :: rest, chars =>
    (List.range (chars.length + 1)).any fun count => covers rest (chars.drop count)
  | _ :: _, [] => false
  | .one expected :: rest, c :: chars => c == expected && covers rest chars
  | .anyOne :: rest, _ :: chars => covers rest chars
  | .among found :: rest, c :: chars => found.takes c && covers rest chars

end NamePattern

end Scriptlet.Shell
