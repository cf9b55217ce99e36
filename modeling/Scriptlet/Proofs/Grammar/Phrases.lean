import Scriptlet.Proofs.Grammar.StatementCompleteness
import Scriptlet.Proofs.Syntax.Lines

/-!
# Phrases

A phrase is a list of kinds of tokens that spells a tree wherever it stands: tokens of these kinds,
on whatever lines and whatever follows them, spell the tree up to lines. Only a statement that ends
with a branch without an `else` also asks that no `else` follows it. Phrases are put together as the
trees are, by one rule for each rule of the grammar.
-/

namespace Scriptlet

variable {tokens middle rest : List Token}

/-! ## Tokens of given kinds -/

/-- The tokens in front of `rest` are of the given kinds. -/
def OfKinds (kinds : List TokenKind) (tokens rest : List Token) : Prop :=
  ∃ front, tokens = front ++ rest ∧ front.map (·.kind) = kinds

/-- No tokens are of no kinds. -/
theorem ofKinds_nil_iff : OfKinds [] tokens rest ↔ tokens = rest := by
  constructor
  · rintro ⟨front, rfl, none⟩
    rw [List.map_eq_nil_iff.mp none, List.nil_append]
  · rintro rfl
    exact ⟨[], rfl, rfl⟩

/-- Tokens of some kinds begin with one of the first kind. -/
theorem ofKinds_cons_iff {kind : TokenKind} {kinds : List TokenKind} :
    OfKinds (kind :: kinds) tokens rest ↔
      ∃ token behind, tokens = token :: behind ∧ token.kind = kind ∧ OfKinds kinds behind rest := by
  constructor
  · rintro ⟨front, rfl, same⟩
    obtain ⟨token, more, rfl, isKind, others⟩ := List.map_eq_cons_iff.mp same
    exact ⟨token, more ++ rest, rfl, isKind, more, rfl, others⟩
  · rintro ⟨token, behind, rfl, rfl, front, rfl, rfl⟩
    exact ⟨token :: front, rfl, rfl⟩

/-- Tokens of kinds in two parts come in two parts. -/
theorem ofKinds_append_iff {first second : List TokenKind} :
    OfKinds (first ++ second) tokens rest ↔
      ∃ middle, OfKinds first tokens middle ∧ OfKinds second middle rest := by
  constructor
  · rintro ⟨front, rfl, same⟩
    obtain ⟨left, right, rfl, isFirst, isSecond⟩ := List.map_eq_append_iff.mp same
    exact ⟨right ++ rest, ⟨left, List.append_assoc left right rest, isFirst⟩, right, rfl, isSecond⟩
  · rintro ⟨middle, ⟨left, rfl, rfl⟩, right, rfl, rfl⟩
    exact ⟨left ++ right, (List.append_assoc left right rest).symm, List.map_append⟩

namespace OfKinds

variable {kind : TokenKind} {kinds first second : List TokenKind} {token : Token}

/-- Where there are no kinds, nothing is read. -/
theorem nil : OfKinds [] tokens tokens :=
  ofKinds_nil_iff.mpr rfl

/-- A token of a kind, before tokens of other kinds. -/
theorem cons (isKind : token.kind = kind) (behind : OfKinds kinds tokens rest) :
    OfKinds (kind :: kinds) (token :: tokens) rest :=
  ofKinds_cons_iff.mpr ⟨token, tokens, rfl, isKind, behind⟩

/-- One token of one kind. -/
theorem single (isKind : token.kind = kind) : OfKinds [kind] (token :: rest) rest :=
  .cons isKind .nil

/-- Tokens of some kinds, before tokens of other kinds. -/
theorem append (before : OfKinds first tokens middle) (behind : OfKinds second middle rest) :
    OfKinds (first ++ second) tokens rest :=
  ofKinds_append_iff.mpr ⟨middle, before, behind⟩

end OfKinds

/-! ## Expressions -/

namespace Expr

/-- What spells an expression tightly spells it loosely. -/
theorem Spelled.of_le {rank tighter : Nat} {expr : Expr}
    (spelled : Expr.Spelled tighter tokens expr rest) (looser : rank ≤ tighter) :
    Expr.Spelled rank tokens expr rest := by
  induction looser with
  | refl => exact spelled
  | step _ ih => exact ih (.tighter spelled)

/-- Some tokens spell, up to lines, an expression, and leave `rest`. -/
def SpelledUpToLines (rank : Nat) (tokens : List Token) (expr : Expr) (rest : List Token) : Prop :=
  ∃ read, Expr.Spelled rank tokens read rest ∧ read.eraseLines = expr.eraseLines

/-- Tokens of these kinds spell an expression wherever they stand. -/
def Phrase (rank : Nat) (kinds : List TokenKind) (expr : Expr) : Prop :=
  ∀ ⦃tokens rest⦄, OfKinds kinds tokens rest → SpelledUpToLines rank tokens expr rest

/-- Tokens of these kinds spell expressions with commas between them. -/
def ArgumentsPhrase (kinds : List TokenKind) (exprs : List Expr) : Prop :=
  ∀ ⦃tokens rest⦄, OfKinds kinds tokens rest →
    ∃ read, SpelledArguments tokens read rest ∧
      mapLinesAll (fun _ => 0) read = mapLinesAll (fun _ => 0) exprs

/-- Tokens of these kinds spell an expression, or there are none of them. -/
def OptionPhrase (kinds : List TokenKind) (value : Option Expr) : Prop :=
  ∀ ⦃tokens rest⦄, OfKinds kinds tokens rest →
    ∃ read, SpelledOption tokens read rest ∧ read.map eraseLines = value.map eraseLines

namespace Phrase

variable {rank tighter line : Nat} {kinds inside behind : List TokenKind} {expr : Expr}
  {name : String}

/-- A phrase of some rank is one of every looser rank. -/
theorem of_le (phrase : Phrase tighter kinds expr) (looser : rank ≤ tighter) :
    Phrase rank kinds expr := by
  intro tokens rest written
  obtain ⟨read, spelled, same⟩ := phrase written
  exact ⟨read, spelled.of_le looser, same⟩

/-- The kind of a literal is a phrase for it. -/
theorem literal (value : Literal) : Phrase 10 [value.kind] (.literal line value) := by
  intro tokens rest written
  simp only [ofKinds_cons_iff, ofKinds_nil_iff] at written
  obtain ⟨token, _, rfl, isValue, rfl⟩ := written
  exact ⟨_, .literal isValue, rfl⟩

/-- A name is a phrase for the reference to it. -/
theorem reference : Phrase 10 [.identifier name] (.reference line name) := by
  intro tokens rest written
  simp only [ofKinds_cons_iff, ofKinds_nil_iff] at written
  obtain ⟨token, _, rfl, isName, rfl⟩ := written
  exact ⟨_, .reference isName, rfl⟩

/-- A phrase of any rank may be put into parentheses. -/
theorem grouping (phrase : Phrase 0 inside expr) :
    Phrase 10 (.symbol .leftParen :: inside ++ [.symbol .rightParen]) (.grouping line expr) := by
  intro tokens rest written
  simp only [List.cons_append, ofKinds_cons_iff, ofKinds_append_iff, ofKinds_nil_iff] at written
  obtain ⟨opening, _, rfl, opens, middle, content, closing, _, rfl, closes, rfl⟩ := written
  obtain ⟨read, spelled, same⟩ := phrase content
  exact ⟨_, .grouping opens spelled closes, congrArg (Expr.grouping 0) same⟩

/-- A sign may be put before a phrase that stands where its operand may. -/
theorem unary {op : UnaryOp} (phrase : Phrase 8 behind expr) :
    Phrase 8 (.symbol op.symbol :: behind) (.unary line op expr) := by
  intro tokens rest written
  simp only [ofKinds_cons_iff] at written
  obtain ⟨sign, _, rfl, isSign, content⟩ := written
  obtain ⟨read, spelled, same⟩ := phrase content
  exact ⟨_, .unary isSign spelled, congrArg (Expr.unary 0 op) same⟩

/-- An operator may be put between two phrases, of its rank to the left and of a tighter one to the
right. -/
theorem connective {connective : Connective} {left right : Expr}
    (first : Phrase connective.rank inside left)
    (second : Phrase (connective.rank + 1) behind right) :
    Phrase connective.rank (inside ++ connective.kind :: behind)
      (connective.node line left right) := by
  intro tokens rest written
  simp only [ofKinds_append_iff, ofKinds_cons_iff] at written
  obtain ⟨middle, before, operator, _, rfl, isOperator, after⟩ := written
  obtain ⟨left, spelledLeft, sameLeft⟩ := first before
  obtain ⟨right, spelledRight, sameRight⟩ := second after
  refine ⟨_, .binary spelledLeft isOperator spelledRight, ?_⟩
  cases connective
  all_goals simp only [Connective.node, Expr.eraseLines, Expr.mapLines] at sameLeft sameRight ⊢
  all_goals rw [sameLeft, sameRight]

/-- A name may be assigned what a phrase spells. -/
theorem assign (phrase : Phrase 0 behind expr) :
    Phrase 0 (.identifier name :: .symbol .equal :: behind) (.assign line name expr) := by
  intro tokens rest written
  simp only [ofKinds_cons_iff] at written
  obtain ⟨target, _, rfl, isName, operator, _, rfl, isSet, content⟩ := written
  obtain ⟨read, spelled, same⟩ := phrase content
  exact ⟨_, .assign isName isSet spelled, congrArg (Expr.assign 0 name) same⟩

/-- A name may be updated by what a phrase spells, with an operator that takes an operand. -/
theorem update {op : UpdateOp} (takes : op.amount? = none) (phrase : Phrase 0 behind expr) :
    Phrase 0 (.identifier name :: .symbol op.symbol :: behind) (.update line op name expr) := by
  intro tokens rest written
  simp only [ofKinds_cons_iff] at written
  obtain ⟨target, _, rfl, isName, operator, _, rfl, isUpdate, content⟩ := written
  obtain ⟨read, spelled, same⟩ := phrase content
  exact ⟨_, .update isName takes isUpdate spelled, congrArg (Expr.update 0 op name) same⟩

/-- A name may be stepped by an operator that takes none. -/
theorem step {op : UpdateOp} {amount : Float} {other : Nat} (steps : op.amount? = some amount) :
    Phrase 0 [.identifier name, .symbol op.symbol]
      (.update line op name (.literal other (.number amount))) := by
  intro tokens rest written
  simp only [ofKinds_cons_iff, ofKinds_nil_iff] at written
  obtain ⟨target, _, rfl, isName, operator, _, rfl, isStep, rfl⟩ := written
  exact ⟨_, .step isName steps isStep, rfl⟩

/-- A call without arguments is a phrase and two parentheses behind it. -/
theorem bareCall (phrase : Phrase 9 inside expr) :
    Phrase 9 (inside ++ [.symbol .leftParen, .symbol .rightParen]) (.call line expr []) := by
  intro tokens rest written
  simp only [ofKinds_append_iff, ofKinds_cons_iff, ofKinds_nil_iff] at written
  obtain ⟨middle, content, opening, _, rfl, opens, closing, _, rfl, closes, rfl⟩ := written
  obtain ⟨read, spelled, same⟩ := phrase content
  exact ⟨_, .bareCall spelled opens closes, congrArg (Expr.call 0 · []) same⟩

/-- A call with arguments has their phrase between its parentheses, if there are not too many. -/
theorem call {arguments : List Expr} (phrase : Phrase 9 inside expr)
    (list : ArgumentsPhrase behind arguments) (few : arguments.length ≤ maxListLength) :
    Phrase 9 (inside ++ .symbol .leftParen :: behind ++ [.symbol .rightParen])
      (.call line expr arguments) := by
  intro tokens rest written
  simp only [List.append_assoc, List.cons_append, ofKinds_append_iff, ofKinds_cons_iff,
    ofKinds_nil_iff] at written
  obtain ⟨middle, content, opening, _, rfl, opens, last, given, closing, _, rfl, closes, rfl⟩ :=
    written
  obtain ⟨read, spelled, same⟩ := phrase content
  obtain ⟨reads, spelledAll, sameAll⟩ := list given
  have sameLength : reads.length = arguments.length := by
    have lengths := congrArg List.length sameAll
    simpa only [Expr.mapLinesAll_eq_map, List.length_map] using lengths
  refine ⟨_, .call spelled opens spelledAll (sameLength ▸ few) closes, ?_⟩
  change Expr.call 0 read.eraseLines (Expr.mapLinesAll (fun _ => 0) reads) = _
  rw [same, sameAll]
  rfl

end Phrase

/-- A phrase is one of a single argument. -/
theorem ArgumentsPhrase.last {kinds : List TokenKind} {expr : Expr}
    (phrase : Phrase 0 kinds expr) : ArgumentsPhrase kinds [expr] := by
  intro tokens rest written
  obtain ⟨read, spelled, same⟩ := phrase written
  exact ⟨[read], .last spelled, congrArg ([·]) same⟩

/-- One more argument stands in front, with a comma behind it. -/
theorem ArgumentsPhrase.more {inside behind : List TokenKind} {expr : Expr} {exprs : List Expr}
    (phrase : Phrase 0 inside expr) (others : ArgumentsPhrase behind exprs) :
    ArgumentsPhrase (inside ++ .symbol .comma :: behind) (expr :: exprs) := by
  intro tokens rest written
  simp only [ofKinds_append_iff, ofKinds_cons_iff] at written
  obtain ⟨middle, content, comma, _, rfl, isComma, later⟩ := written
  obtain ⟨read, spelled, same⟩ := phrase content
  obtain ⟨reads, spelledMore, sameMore⟩ := others later
  exact ⟨read :: reads, .more spelled isComma spelledMore, List.cons_eq_cons.mpr ⟨same, sameMore⟩⟩

/-- A phrase spells an expression that may be left out. -/
theorem OptionPhrase.some {kinds : List TokenKind} {expr : Expr} (phrase : Phrase 0 kinds expr) :
    OptionPhrase kinds (some expr) := by
  intro tokens rest written
  obtain ⟨read, spelled, same⟩ := phrase written
  exact ⟨_, .some spelled, congrArg Option.some same⟩

/-- No tokens spell the one that is left out. -/
theorem OptionPhrase.none : OptionPhrase [] none := by
  intro tokens rest written
  obtain rfl := ofKinds_nil_iff.mp written
  exact ⟨_, .none, rfl⟩

end Expr

/-! ## Statements -/

namespace Statement

/-- Some tokens spell, up to lines, a statement that is no declaration, and leave `rest`. -/
def SpelledUpToLines (inFunction : Bool) (tokens : List Token) (statement : Statement)
    (rest : List Token) : Prop :=
  ∃ read, Statement.Spelled inFunction tokens read rest ∧ read.eraseLines = statement.eraseLines

/-- Some tokens spell, up to lines, a declaration, and leave `rest`. -/
def SpelledDeclarationUpToLines (inFunction : Bool) (tokens : List Token) (statement : Statement)
    (rest : List Token) : Prop :=
  ∃ read, Statement.SpelledDeclaration inFunction tokens read rest ∧
    read.eraseLines = statement.eraseLines

/-- Tokens of these kinds spell a statement wherever they stand, except in front of an `else` if the
statement is open to one. -/
def Phrase (inFunction : Bool) (isOpen : Prop) (kinds : List TokenKind) (statement : Statement) :
    Prop :=
  ∀ ⦃tokens rest⦄, OfKinds kinds tokens rest → (isOpen → Ahead (· ≠ .keyword .elseWord) rest) →
    SpelledUpToLines inFunction tokens statement rest

/-- Tokens of these kinds spell a declaration wherever they stand, except in front of an `else` if
it is open to one. -/
def DeclarationPhrase (inFunction : Bool) (isOpen : Prop) (kinds : List TokenKind)
    (statement : Statement) : Prop :=
  ∀ ⦃tokens rest⦄, OfKinds kinds tokens rest → (isOpen → Ahead (· ≠ .keyword .elseWord) rest) →
    SpelledDeclarationUpToLines inFunction tokens statement rest

/-- Tokens of these kinds spell statements, one behind the other, wherever no `else` follows. -/
def ListPhrase (inFunction : Bool) (kinds : List TokenKind) (statements : List Statement) : Prop :=
  ∀ ⦃tokens rest⦄, OfKinds kinds tokens rest → Ahead (· ≠ .keyword .elseWord) rest →
    ∃ read, SpelledList inFunction tokens read rest ∧
      mapLinesAll (fun _ => 0) read = mapLinesAll (fun _ => 0) statements

/-- Tokens of these kinds spell the parameters of a function. -/
def ParametersPhrase (kinds : List TokenKind) (names : List String) : Prop :=
  ∀ ⦃tokens rest⦄, OfKinds kinds tokens rest → SpelledParameters tokens names rest

/-- Tokens of these kinds spell a branch of a choice. -/
def BranchPhrase (printEnds valueEnds : List Symbol) (kinds : List TokenKind)
    (statement : Statement) : Prop :=
  ∀ ⦃tokens rest⦄, OfKinds kinds tokens rest →
    ∃ read, SpelledBranch printEnds valueEnds tokens read rest ∧
      read.eraseLines = statement.eraseLines

/-- Tokens of these kinds spell a statement that begins with an expression. -/
def ValuePhrase (kinds : List TokenKind) (statement : Statement) : Prop :=
  ∀ ⦃tokens rest⦄, OfKinds kinds tokens rest →
    ∃ read, SpelledValue tokens read rest ∧ read.eraseLines = statement.eraseLines

/-- Tokens of these kinds spell the declaration of a variable. -/
def VariablePhrase (kinds : List TokenKind) (statement : Statement) : Prop :=
  ∀ ⦃tokens rest⦄, OfKinds kinds tokens rest →
    ∃ read, SpelledVariable tokens read rest ∧ read.eraseLines = statement.eraseLines

/-- Tokens of these kinds spell the first clause of a loop over clauses. -/
def InitialPhrase (kinds : List TokenKind) (initial : Option Statement) : Prop :=
  ∀ ⦃tokens rest⦄, OfKinds kinds tokens rest →
    ∃ read, SpelledInitial tokens read rest ∧ read.map eraseLines = initial.map eraseLines

section Rules

variable {inFunction : Bool} {isOpen weaker : Prop} {line : Nat}
  {kinds inside behind last : List TokenKind} {statement : Statement} {expr condition : Expr}
  {name : String} {printEnds valueEnds : List Symbol} {symbol : Symbol}

/-- A statement that asks less of what follows it is a phrase where one that asks more is. -/
theorem Phrase.imp (phrase : Phrase inFunction isOpen kinds statement) (opens : isOpen → weaker) :
    Phrase inFunction weaker kinds statement :=
  fun _ _ written noElse => phrase written (noElse ∘ opens)

theorem BranchPhrase.print (phrase : Expr.Phrase 0 inside expr) (ends : symbol ∈ printEnds) :
    BranchPhrase printEnds valueEnds (.keyword .printWord :: inside ++ [.symbol symbol])
      (.print line expr) := by
  intro tokens rest written
  simp only [List.cons_append, ofKinds_append_iff, ofKinds_cons_iff, ofKinds_nil_iff] at written
  obtain ⟨keyword, _, rfl, isPrint, middle, content, closing, _, rfl, closes, rfl⟩ := written
  obtain ⟨read, spelled, same⟩ := phrase content
  exact ⟨_, .print isPrint spelled ends closes, congrArg (Statement.print 0) same⟩

theorem BranchPhrase.value (phrase : Expr.Phrase 0 inside expr) (ends : symbol ∈ valueEnds) :
    BranchPhrase printEnds valueEnds (inside ++ [.symbol symbol]) (.expression line expr) := by
  intro tokens rest written
  simp only [ofKinds_append_iff, ofKinds_cons_iff, ofKinds_nil_iff] at written
  obtain ⟨middle, content, closing, _, rfl, closes, rfl⟩ := written
  obtain ⟨read, spelled, same⟩ := phrase content
  exact ⟨_, .value spelled ends closes, congrArg (Statement.expression 0) same⟩

theorem ValuePhrase.expression (phrase : Expr.Phrase 0 inside expr) :
    ValuePhrase (inside ++ [.symbol .semicolon]) (.expression line expr) := by
  intro tokens rest written
  simp only [ofKinds_append_iff, ofKinds_cons_iff, ofKinds_nil_iff] at written
  obtain ⟨middle, content, closing, _, rfl, closes, rfl⟩ := written
  obtain ⟨read, spelled, same⟩ := phrase content
  exact ⟨_, .expression spelled closes, congrArg (Statement.expression 0) same⟩

/-- The first branch of a choice ends with a colon, and a `print` in its place may end with a
semicolon as well. -/
theorem ValuePhrase.choice {positive negative : Statement} (phrase : Expr.Phrase 0 inside condition)
    (first : BranchPhrase [.colon, .semicolon] [.colon] behind positive)
    (second : BranchPhrase [.semicolon] [.semicolon] last negative) :
    ValuePhrase (inside ++ .symbol .question :: behind ++ last)
      (.choice line condition positive negative) := by
  intro tokens rest written
  simp only [List.append_assoc, List.cons_append, ofKinds_append_iff, ofKinds_cons_iff] at written
  obtain ⟨middle, content, question, _, rfl, isQuestion, more, before, after⟩ := written
  obtain ⟨read, spelled, same⟩ := phrase content
  obtain ⟨yes, spelledYes, sameYes⟩ := first before
  obtain ⟨no, spelledNo, sameNo⟩ := second after
  refine ⟨_, .choice spelled isQuestion spelledYes spelledNo, ?_⟩
  change Statement.choice 0 read.eraseLines yes.eraseLines no.eraseLines = _
  rw [same, sameYes, sameNo]
  rfl

theorem VariablePhrase.bare :
    VariablePhrase [.keyword .varWord, .identifier name, .symbol .semicolon]
      (.declare line name none) := by
  intro tokens rest written
  simp only [ofKinds_cons_iff, ofKinds_nil_iff] at written
  obtain ⟨keyword, _, rfl, isVar, target, _, rfl, isTarget, closing, _, rfl, closes, rfl⟩ :=
    written
  exact ⟨_, .bare isVar isTarget closes, rfl⟩

theorem VariablePhrase.initialized (phrase : Expr.Phrase 0 inside expr) :
    VariablePhrase
      (.keyword .varWord :: .identifier name :: .symbol .equal :: inside ++ [.symbol .semicolon])
      (.declare line name (some expr)) := by
  intro tokens rest written
  simp only [List.cons_append, ofKinds_append_iff, ofKinds_cons_iff, ofKinds_nil_iff] at written
  obtain ⟨keyword, _, rfl, isVar, target, _, rfl, isTarget, equal, _, rfl, isEqual, middle,
    content, closing, _, rfl, closes, rfl⟩ := written
  obtain ⟨read, spelled, same⟩ := phrase content
  exact ⟨_, .initialized isVar isTarget isEqual spelled closes,
    congrArg (fun initial => Statement.declare 0 name (some initial)) same⟩

theorem InitialPhrase.none : InitialPhrase [.symbol .semicolon] none := by
  intro tokens rest written
  simp only [ofKinds_cons_iff, ofKinds_nil_iff] at written
  obtain ⟨closing, _, rfl, closes, rfl⟩ := written
  exact ⟨_, .none closes, rfl⟩

theorem VariablePhrase.initial (phrase : VariablePhrase kinds statement) :
    InitialPhrase kinds (some statement) := by
  intro tokens rest written
  obtain ⟨read, spelled, same⟩ := phrase written
  exact ⟨_, .variable spelled, congrArg some same⟩

theorem ValuePhrase.initial (phrase : ValuePhrase kinds statement) :
    InitialPhrase kinds (some statement) := by
  intro tokens rest written
  obtain ⟨read, spelled, same⟩ := phrase written
  exact ⟨_, .value spelled, congrArg some same⟩

/-- A statement that begins with an expression is one wherever statements are. -/
theorem ValuePhrase.phrase (phrase : ValuePhrase kinds statement) :
    Phrase inFunction isOpen kinds statement := by
  intro tokens rest written _
  obtain ⟨read, spelled, same⟩ := phrase written
  exact ⟨_, .value spelled, same⟩

theorem Phrase.print (phrase : Expr.Phrase 0 inside expr) :
    Phrase inFunction isOpen (.keyword .printWord :: inside ++ [.symbol .semicolon])
      (.print line expr) := by
  intro tokens rest written _
  simp only [List.cons_append, ofKinds_append_iff, ofKinds_cons_iff, ofKinds_nil_iff] at written
  obtain ⟨keyword, _, rfl, isPrint, middle, content, closing, _, rfl, closes, rfl⟩ := written
  obtain ⟨read, spelled, same⟩ := phrase content
  exact ⟨_, .print isPrint spelled closes, congrArg (Statement.print 0) same⟩

/-- A `return` is a phrase inside of functions alone. -/
theorem Phrase.giveBack {value : Option Expr} (phrase : Expr.OptionPhrase inside value) :
    Phrase true isOpen (.keyword .returnWord :: inside ++ [.symbol .semicolon])
      (.giveBack line value) := by
  intro tokens rest written _
  simp only [List.cons_append, ofKinds_append_iff, ofKinds_cons_iff, ofKinds_nil_iff] at written
  obtain ⟨keyword, _, rfl, isReturn, middle, content, closing, _, rfl, closes, rfl⟩ := written
  obtain ⟨read, spelled, same⟩ := phrase content
  exact ⟨_, .giveBack isReturn spelled closes, congrArg (Statement.giveBack 0) same⟩

/-- A block closes itself: whatever is inside, an `else` behind it belongs to something around
it. -/
theorem Phrase.block {body : List Statement} (phrase : ListPhrase inFunction inside body) :
    Phrase inFunction isOpen (.symbol .leftBrace :: inside ++ [.symbol .rightBrace])
      (.block line body) := by
  intro tokens rest written _
  simp only [List.cons_append, ofKinds_append_iff, ofKinds_cons_iff, ofKinds_nil_iff] at written
  obtain ⟨opening, _, rfl, opens, middle, content, closing, _, rfl, closes, rfl⟩ := written
  obtain ⟨read, spelled, same⟩ := phrase content (by simp [closes])
  exact ⟨_, .block opens spelled closes, congrArg (Statement.block 0) same⟩

/-- A branch without an `else` is open to one: none may follow it. -/
theorem Phrase.branch {positive : Statement} (phrase : Expr.Phrase 0 inside condition)
    (first : Phrase inFunction True behind positive) :
    Phrase inFunction True
      (.keyword .ifWord :: .symbol .leftParen :: inside ++ .symbol .rightParen :: behind)
      (.branch line condition positive none) := by
  intro tokens rest written noElse
  simp only [List.cons_append, ofKinds_append_iff, ofKinds_cons_iff] at written
  obtain ⟨keyword, _, rfl, isIf, opening, _, rfl, opens, middle, content, closing, _, rfl, closes,
    before⟩ := written
  obtain ⟨read, spelled, same⟩ := phrase content
  obtain ⟨yes, spelledYes, sameYes⟩ := first before noElse
  refine ⟨_, .branch isIf opens spelled closes spelledYes (noElse trivial), ?_⟩
  change Statement.branch 0 read.eraseLines yes.eraseLines none = _
  rw [same, sameYes]
  rfl

/-- In front of an `else` a statement has to be closed, so that the `else` belongs to this
branch. -/
theorem Phrase.branchElse {positive negative : Statement}
    (phrase : Expr.Phrase 0 inside condition) (first : Phrase inFunction False behind positive)
    (second : Phrase inFunction isOpen last negative) :
    Phrase inFunction isOpen
      (.keyword .ifWord :: .symbol .leftParen :: inside ++
        .symbol .rightParen :: behind ++ .keyword .elseWord :: last)
      (.branch line condition positive (some negative)) := by
  intro tokens rest written noElse
  simp only [List.cons_append, List.append_assoc, ofKinds_append_iff, ofKinds_cons_iff] at written
  obtain ⟨keyword, _, rfl, isIf, opening, _, rfl, opens, middle, content, closing, _, rfl, closes,
    more, before, otherwise, _, rfl, isElse, after⟩ := written
  obtain ⟨read, spelled, same⟩ := phrase content
  obtain ⟨yes, spelledYes, sameYes⟩ := first before False.elim
  obtain ⟨no, spelledNo, sameNo⟩ := second after noElse
  refine ⟨_, .branchElse isIf opens spelled closes spelledYes isElse spelledNo, ?_⟩
  change Statement.branch 0 read.eraseLines yes.eraseLines (some no.eraseLines) = _
  rw [same, sameYes, sameNo]
  rfl

/-- A loop is open to an `else` where its body is. -/
theorem Phrase.whileLoop {body : Statement} (phrase : Expr.Phrase 0 inside condition)
    (rounds : Phrase inFunction isOpen behind body) :
    Phrase inFunction isOpen
      (.keyword .whileWord :: .symbol .leftParen :: inside ++ .symbol .rightParen :: behind)
      (.whileLoop line condition body) := by
  intro tokens rest written noElse
  simp only [List.cons_append, ofKinds_append_iff, ofKinds_cons_iff] at written
  obtain ⟨keyword, _, rfl, isWhile, opening, _, rfl, opens, middle, content, closing, _, rfl,
    closes, repeated⟩ := written
  obtain ⟨read, spelled, same⟩ := phrase content
  obtain ⟨body, spelledBody, sameBody⟩ := rounds repeated noElse
  refine ⟨_, .whileLoop isWhile opens spelled closes spelledBody, ?_⟩
  change Statement.whileLoop 0 read.eraseLines body.eraseLines = _
  rw [same, sameBody]
  rfl

/-- A loop that is tested at its end is closed by a semicolon, whatever its body is. -/
theorem Phrase.doWhileLoop {body : Statement} (phrase : Expr.Phrase 0 inside condition)
    (rounds : Phrase inFunction isOpen behind body) :
    Phrase inFunction False
      (.keyword .doWord :: behind ++ .keyword .whileWord :: .symbol .leftParen :: inside ++
        [.symbol .rightParen, .symbol .semicolon])
      (.doWhileLoop line body condition) := by
  intro tokens rest written _
  simp only [List.cons_append, List.append_assoc, ofKinds_append_iff, ofKinds_cons_iff,
    ofKinds_nil_iff] at written
  obtain ⟨keyword, _, rfl, isDo, middle, repeated, again, _, rfl, isWhile, opening, _, rfl, opens,
    more, content, closing, _, rfl, closes, ending, _, rfl, ends, rfl⟩ := written
  obtain ⟨read, spelled, same⟩ := phrase content
  obtain ⟨body, spelledBody, sameBody⟩ := rounds repeated fun _ => by simp [isWhile]
  refine ⟨_, .doWhileLoop isDo spelledBody isWhile opens spelled closes ends, ?_⟩
  change Statement.doWhileLoop 0 body.eraseLines read.eraseLines = _
  rw [same, sameBody]
  rfl

/-- What a loop over clauses abbreviates is, up to lines, that of its parts. -/
theorem eraseLines_unrolled (line : Nat) (initial : Option Statement)
    (condition increment : Option Expr) (body : Statement) :
    (unrolled line initial condition increment body).eraseLines =
      unrolled 0 (initial.map eraseLines) (condition.map Expr.eraseLines)
        (increment.map Expr.eraseLines) body.eraseLines := by
  cases initial <;> cases condition <;> cases increment <;>
    simp [unrolled, grouped, mapLines, mapLinesAll, Expr.mapLines]

/-- A loop over clauses is a phrase for what it abbreviates. -/
theorem Phrase.forLoop {initial : Option Statement} {condition increment : Option Expr}
    {body : Statement} {first second third rounds : List TokenKind}
    (isFirst : InitialPhrase first initial) (isSecond : Expr.OptionPhrase second condition)
    (isThird : Expr.OptionPhrase third increment)
    (isBody : Phrase inFunction isOpen rounds body) :
    Phrase inFunction isOpen
      (.keyword .forWord :: .symbol .leftParen :: first ++ second ++ .symbol .semicolon :: third ++
        .symbol .rightParen :: rounds)
      (unrolled line initial condition increment body) := by
  intro tokens rest written noElse
  simp only [List.cons_append, List.append_assoc, ofKinds_append_iff, ofKinds_cons_iff] at written
  obtain ⟨keyword, _, rfl, isFor, opening, _, rfl, opens, _, clause, _, content, separator, _, rfl,
    separates, _, more, closing, _, rfl, closes, repeated⟩ := written
  obtain ⟨start, spelledStart, sameStart⟩ := isFirst clause
  obtain ⟨read, spelled, same⟩ := isSecond content
  obtain ⟨step, spelledStep, sameStep⟩ := isThird more
  obtain ⟨body, spelledBody, sameBody⟩ := isBody repeated noElse
  refine ⟨_, .forLoop isFor opens spelledStart spelled separates spelledStep closes spelledBody, ?_⟩
  rw [eraseLines_unrolled, eraseLines_unrolled, sameStart, same, sameStep, sameBody]

theorem VariablePhrase.declaration (phrase : VariablePhrase kinds statement) :
    DeclarationPhrase inFunction isOpen kinds statement := by
  intro tokens rest written _
  obtain ⟨read, spelled, same⟩ := phrase written
  exact ⟨_, .variable spelled, same⟩

theorem Phrase.declaration (phrase : Phrase inFunction isOpen kinds statement) :
    DeclarationPhrase inFunction isOpen kinds statement := by
  intro tokens rest written noElse
  obtain ⟨read, spelled, same⟩ := phrase written noElse
  exact ⟨_, .statement spelled, same⟩

/-- A function is a phrase that closes itself. Its body is inside of a function, whatever is around
it. -/
theorem DeclarationPhrase.function {parameters : List String} {body : List Statement}
    (list : ParametersPhrase inside parameters) (phrase : ListPhrase true behind body) :
    DeclarationPhrase inFunction isOpen
      (.keyword .funWord :: .identifier name :: .symbol .leftParen :: inside ++
        .symbol .rightParen :: .symbol .leftBrace :: behind ++ [.symbol .rightBrace])
      (.function line name parameters body) := by
  intro tokens rest written _
  simp only [List.cons_append, List.append_assoc, ofKinds_append_iff, ofKinds_cons_iff,
    ofKinds_nil_iff] at written
  obtain ⟨keyword, _, rfl, isFun, target, _, rfl, isTarget, opening, _, rfl, opens, _, given,
    closing, _, rfl, closes, brace, _, rfl, isBrace, middle, content, ending, _, rfl, ends, rfl⟩ :=
    written
  obtain ⟨read, spelled, same⟩ := phrase content (by simp [ends])
  exact ⟨_, .function isFun isTarget opens (list given) closes isBrace spelled ends,
    congrArg (Statement.function 0 name parameters) same⟩

theorem ListPhrase.nil : ListPhrase inFunction [] [] := by
  intro tokens rest written _
  obtain rfl := ofKinds_nil_iff.mp written
  exact ⟨[], .nil, rfl⟩

/-- One more statement stands in front. It may be open to an `else`, as no declaration begins with
one. -/
theorem ListPhrase.cons {statements : List Statement}
    (first : DeclarationPhrase inFunction isOpen inside statement)
    (others : ListPhrase inFunction behind statements) :
    ListPhrase inFunction (inside ++ behind) (statement :: statements) := by
  intro tokens rest written noElse
  obtain ⟨middle, before, later⟩ := ofKinds_append_iff.mp written
  obtain ⟨reads, spelledMore, sameMore⟩ := others later noElse
  obtain ⟨read, spelled, same⟩ :=
    first before fun _ => Grammar.noElse_of_spelledList spelledMore noElse
  exact ⟨read :: reads, .cons spelled spelledMore, List.cons_eq_cons.mpr ⟨same, sameMore⟩⟩

end Rules

end Statement

end Scriptlet
