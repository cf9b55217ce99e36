import Scriptlet.SyntaxError

/-!
# Parsers

A parser reads from the front of a list of tokens. It answers with a value and the tokens left
over, or it fails at the tokens that it could not use; in both cases it may have reported faults
that did not stop it. A parser whose recursion is bounded can also run out of its bound.
-/

namespace Scriptlet

/-- A fault noticed at a token, or behind the last one. -/
structure Report where
  fault : SyntaxFault
  token : Option Token
  deriving DecidableEq

/-- A report as an error, where the input ends on `lastLine`. -/
def Report.toError (lastLine : Nat) (report : Report) : SyntaxError :=
  match report.token with
  | some token => ⟨token.line, .token token.lexeme, report.fault⟩
  | none => ⟨lastLine, .endOfInput, report.fault⟩

/-- What a parser answers. The report that was made last comes first. -/
inductive Reply (α : Type) where
  | parsed (value : α) (rest : List Token) (reports : List Report)
  | failed (error : Report) (rest : List Token) (reports : List Report)
  | unfinished

/-- A reply with reports that were made before it. -/
def Reply.after {α : Type} (reply : Reply α) (earlier : List Report) : Reply α :=
  if earlier.isEmpty then reply
  else
    match reply with
    | parsed value rest reports => parsed value rest (reports ++ earlier)
    | failed error rest reports => failed error rest (reports ++ earlier)
    | unfinished => unfinished

namespace Reply

variable {α : Type}

@[simp] theorem after_parsed (value : α) (rest : List Token) (reports earlier : List Report) :
    (parsed value rest reports).after earlier = parsed value rest (reports ++ earlier) := by
  cases earlier <;> simp [after]

@[simp] theorem after_failed (error : Report) (rest : List Token)
    (reports earlier : List Report) :
    (failed error rest reports : Reply α).after earlier =
      failed error rest (reports ++ earlier) := by
  cases earlier <;> simp [after]

@[simp] theorem after_unfinished (earlier : List Report) :
    (unfinished : Reply α).after earlier = unfinished := by
  cases earlier <;> simp [after]

@[simp] theorem after_nil (reply : Reply α) : reply.after [] = reply := by
  cases reply <;> simp

/-- Reports made in two steps are those of the second step and then those of the first. -/
theorem after_after (reply : Reply α) (later earlier : List Report) :
    (reply.after later).after earlier = reply.after (later ++ earlier) := by
  cases reply <;> simp

end Reply

/-- A parser reads a value from the front of a list of tokens. -/
def Parser (α : Type) : Type := List Token → Reply α

namespace Parser

variable {α β σ : Type}

/-- A parser whose bound on recursion is used up. -/
def exhausted : Parser α := fun _ => .unfinished

/-- One parser after another, which may depend on the value of the first. -/
@[inline] protected def bind (first : Parser α) (next : α → Parser β) : Parser β := fun tokens =>
  match first tokens with
  | .parsed value rest reports => (next value rest).after reports
  | .failed error rest reports => .failed error rest reports
  | .unfinished => .unfinished

@[always_inline] instance : Monad Parser where
  pure value tokens := .parsed value tokens []
  bind := Parser.bind

@[simp] theorem pure_apply (value : α) (tokens : List Token) :
    (pure value : Parser α) tokens = .parsed value tokens [] := rfl

theorem bind_apply (first : Parser α) (next : α → Parser β) (tokens : List Token) :
    (first >>= next) tokens =
      match first tokens with
      | .parsed value rest reports => (next value rest).after reports
      | .failed error rest reports => .failed error rest reports
      | .unfinished => .unfinished := rfl

theorem bind_pure (parser : Parser α) : parser >>= pure = parser := by
  funext tokens
  rw [bind_apply]
  cases parser tokens <;> simp

theorem bind_assoc {γ : Type} (first : Parser α) (second : α → Parser β)
    (third : β → Parser γ) :
    first >>= second >>= third = first >>= fun value => second value >>= third := by
  funext tokens
  simp only [bind_apply]
  cases first tokens with
  | parsed value rest reports =>
    cases read : second value rest with
    | parsed value rest reports => simp [read, Reply.after_after]
    | failed error rest reports => simp [read]
    | unfinished => simp [read]
  | failed error rest reports => rfl
  | unfinished => rfl

instance : LawfulMonad Parser := LawfulMonad.mk' Parser
  (fun parser => bind_pure parser)
  (fun value next => by funext tokens; simp [bind_apply])
  (fun first second third => bind_assoc first second third)

/-- Fails at the next token. -/
def fail (fault : SyntaxFault) : Parser α := fun tokens =>
  .failed ⟨fault, tokens.head?⟩ tokens []

/-- Reports a fault at a token and reads on. -/
def report (fault : SyntaxFault) (token : Token) : Parser Unit := fun tokens =>
  .parsed () tokens [⟨fault, some token⟩]

/-- Reports a fault at the next token and reads on. -/
def reportNext (fault : SyntaxFault) : Parser Unit := fun tokens =>
  .parsed () tokens [⟨fault, tokens.head?⟩]

/-- Reads the next token if `test` takes it. -/
def accept (test : Token → Option α) : Parser (Option α)
  | [] => .parsed none [] []
  | token :: rest =>
    match test token with
    | some value => .parsed (some value) rest []
    | none => .parsed none (token :: rest) []

/-- Reads the next token, which `test` has to take. -/
def expect (test : Token → Option α) (what : Expectation) : Parser α
  | [] => .failed ⟨.expected what, none⟩ [] []
  | token :: rest =>
    match test token with
    | some value => .parsed value rest []
    | none => .failed ⟨.expected what, some token⟩ (token :: rest) []

/-- Whether there is a next token that passes `test`, which is not read. -/
def nextIs (test : Token → Bool) : Parser Bool := fun tokens =>
  .parsed (tokens.head?.any test) tokens []

/-- Whether no token is left. -/
def atEnd : Parser Bool := fun tokens => .parsed tokens.isEmpty tokens []

/-- Reads a symbol if it comes next. -/
def acceptSymbol (symbol : Symbol) : Parser (Option Token) :=
  accept fun token => if token.isSymbol symbol then some token else none

/-- Reads a keyword if it comes next. -/
def acceptKeyword (keyword : Keyword) : Parser (Option Token) :=
  accept fun token => if token.isKeyword keyword then some token else none

/-- Reads a symbol, which has to come next. -/
def expectSymbol (symbol : Symbol) (what : Expectation) : Parser Token :=
  expect (fun token => if token.isSymbol symbol then some token else none) what

/-- Reads a keyword, which has to come next. -/
def expectKeyword (keyword : Keyword) (what : Expectation) : Parser Token :=
  expect (fun token => if token.isKeyword keyword then some token else none) what

/-- Reads an identifier, which has to come next: its name and line. -/
def expectIdentifier (what : Expectation) : Parser (String × Nat) :=
  expect (fun token =>
    match token.kind with
    | .identifier name => some (name, token.line)
    | _ => none) what

/-- How a loop goes on: with a new state, or not at all. -/
inductive Progress (σ α : Type) where
  | more (state : σ)
  | done (value : α)

/-- Repeats a step until it is done, at most `bound` times. -/
def iterate (step : σ → Parser (Progress σ α)) : (bound : Nat) → σ → Parser α
  | 0, _ => exhausted
  | bound + 1, state => do
    match ← step state with
    | .more state => iterate step bound state
    | .done value => return value

end Parser

end Scriptlet
