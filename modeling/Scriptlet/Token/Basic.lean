/-!
# Tokens

The words of the language: symbols and keywords with a fixed spelling, identifiers, text and
numbers. A token knows how it was written and the line on which it ends.
-/

namespace Scriptlet

/-- A token of punctuation. -/
inductive Symbol where
  | leftParen | rightParen | leftBrace | rightBrace | comma | dot | minus | plus | semicolon
  | slash | star | percent | bang | bangEqual | equal | equalEqual | greater | greaterEqual
  | less | lessEqual | plusDot | starStar | plusEqual | minusEqual | slashEqual | starEqual
  | question | colon | plusPlus | minusMinus
  deriving Repr, DecidableEq

namespace Symbol

/-- Every symbol. -/
def all : List Symbol :=
  [leftParen, rightParen, leftBrace, rightBrace, comma, dot, minus, plus, semicolon, slash, star,
    percent, bang, bangEqual, equal, equalEqual, greater, greaterEqual, less, lessEqual, plusDot,
    starStar, plusEqual, minusEqual, slashEqual, starEqual, question, colon, plusPlus, minusMinus]

/-- The characters of a symbol. -/
def spelling : Symbol → List Char
  | leftParen => ['(']
  | rightParen => [')']
  | leftBrace => ['{']
  | rightBrace => ['}']
  | comma => [',']
  | dot => ['.']
  | minus => ['-']
  | plus => ['+']
  | semicolon => [';']
  | slash => ['/']
  | star => ['*']
  | percent => ['%']
  | bang => ['!']
  | bangEqual => ['!', '=']
  | equal => ['=']
  | equalEqual => ['=', '=']
  | greater => ['>']
  | greaterEqual => ['>', '=']
  | less => ['<']
  | lessEqual => ['<', '=']
  | plusDot => ['+', '.']
  | starStar => ['*', '*']
  | plusEqual => ['+', '=']
  | minusEqual => ['-', '=']
  | slashEqual => ['/', '=']
  | starEqual => ['*', '=']
  | question => ['?']
  | colon => [':']
  | plusPlus => ['+', '+']
  | minusMinus => ['-', '-']

/-- The symbol with the given characters. -/
def ofSpelling? (chars : List Char) : Option Symbol :=
  all.find? (·.spelling == chars)

end Symbol

/-- A word with a meaning of its own, which no identifier can have as its name. -/
inductive Keyword where
  | andWord | classWord | elseWord | falseWord | funWord | forWord | ifWord | nilWord | orWord
  | printWord | returnWord | superWord | thisWord | trueWord | varWord | whileWord | doWord
  deriving Repr, DecidableEq

namespace Keyword

/-- Every keyword. -/
def all : List Keyword :=
  [andWord, classWord, elseWord, falseWord, funWord, forWord, ifWord, nilWord, orWord, printWord,
    returnWord, superWord, thisWord, trueWord, varWord, whileWord, doWord]

/-- The characters of a keyword. -/
def spelling : Keyword → List Char
  | andWord => ['a', 'n', 'd']
  | classWord => ['c', 'l', 'a', 's', 's']
  | elseWord => ['e', 'l', 's', 'e']
  | falseWord => ['f', 'a', 'l', 's', 'e']
  | funWord => ['f', 'u', 'n']
  | forWord => ['f', 'o', 'r']
  | ifWord => ['i', 'f']
  | nilWord => ['n', 'i', 'l']
  | orWord => ['o', 'r']
  | printWord => ['p', 'r', 'i', 'n', 't']
  | returnWord => ['r', 'e', 't', 'u', 'r', 'n']
  | superWord => ['s', 'u', 'p', 'e', 'r']
  | thisWord => ['t', 'h', 'i', 's']
  | trueWord => ['t', 'r', 'u', 'e']
  | varWord => ['v', 'a', 'r']
  | whileWord => ['w', 'h', 'i', 'l', 'e']
  | doWord => ['d', 'o']

/-- The keyword with the given characters. -/
def ofSpelling? (chars : List Char) : Option Keyword :=
  all.find? (·.spelling == chars)

end Keyword

/-- What a token is, with the name, text or number that it holds. -/
inductive TokenKind where
  | symbol (symbol : Symbol)
  | keyword (keyword : Keyword)
  | identifier (name : String)
  | text (content : String)
  | number (value : Float)
  deriving DecidableEq

/-- A token of a source text. -/
structure Token where
  kind : TokenKind
  lexeme : String
  line : Nat
  deriving DecidableEq

/-- Whether a token is the given symbol. -/
def Token.isSymbol (token : Token) (symbol : Symbol) : Bool :=
  token.kind = .symbol symbol

/-- Whether a token is the given keyword. -/
def Token.isKeyword (token : Token) (keyword : Keyword) : Bool :=
  token.kind = .keyword keyword

end Scriptlet
