import Scriptlet.Proofs.Grammar.Program
import Scriptlet.Proofs.Machine.ComparedEvaluation
import Scriptlet.Proofs.Machine.ConfinedEvaluation

/-!
# Returns stay inside of functions

A return is read only inside of the body of a function, and the call whose body it is in is where it
ends. So no statement of a program returns, whatever functions it calls.
-/

namespace Scriptlet

variable {α β σ : Type}

/-! ## Where returns stand -/

namespace Statement

mutual

/-- Whether all returns of a statement stand inside of functions that it declares. -/
def returnsInside : Statement → Bool
  | .expression .. | .print .. | .declare .. | .function .. => true
  | .block _ body => returnsInsideAll body
  | .branch _ _ positive negative => positive.returnsInside && returnsInsideElse negative
  | .choice _ _ positive negative => positive.returnsInside && negative.returnsInside
  | .whileLoop _ _ body | .doWhileLoop _ body _ => body.returnsInside
  | .giveBack .. => false

/-- Whether all returns of some statements do. -/
def returnsInsideAll : List Statement → Bool
  | [] => true
  | statement :: statements => statement.returnsInside && returnsInsideAll statements

/-- Whether all returns behind an `else` do, if one is there. -/
def returnsInsideElse : Option Statement → Bool
  | none => true
  | some negative => negative.returnsInside

end

/-- All returns of some statements stand inside of functions where those of each do. -/
theorem returnsInsideAll_iff {statements : List Statement} :
    returnsInsideAll statements = true ↔
      ∀ statement ∈ statements, statement.returnsInside = true := by
  induction statements with
  | nil => simp [returnsInsideAll]
  | cons statement statements ih => simp [returnsInsideAll, ih]

theorem returnsInside_grouped {line : Nat} {statements : List Statement}
    (inside : ∀ statement ∈ statements, statement.returnsInside = true) :
    (grouped line statements).returnsInside = true := by
  unfold grouped
  split
  · exact inside _ List.mem_cons_self
  · exact returnsInsideAll_iff.mpr inside

/-! ## What is read -/

theorem SpelledBranch.returnsInside {printEnds valueEnds : List Symbol} {tokens rest : List Token}
    {statement : Statement} (spelled : SpelledBranch printEnds valueEnds tokens statement rest) :
    statement.returnsInside = true := by
  cases spelled <;> rfl

theorem SpelledValue.returnsInside {tokens rest : List Token} {statement : Statement}
    (spelled : SpelledValue tokens statement rest) : statement.returnsInside = true := by
  cases spelled with
  | expression => rfl
  | choice _ _ positive negative =>
      simp [Statement.returnsInside, positive.returnsInside, negative.returnsInside]

theorem SpelledVariable.returnsInside {tokens rest : List Token} {statement : Statement}
    (spelled : SpelledVariable tokens statement rest) : statement.returnsInside = true := by
  cases spelled <;> rfl

theorem SpelledInitial.returnsInside {tokens rest : List Token} {initial : Option Statement}
    (spelled : SpelledInitial tokens initial rest) :
    ∀ statement ∈ initial, statement.returnsInside = true := by
  rintro statement ⟨⟩
  rcases spelled with _ | declared | given
  · exact declared.returnsInside
  · exact given.returnsInside

/-- What a loop over clauses abbreviates holds the returns of its body. -/
theorem returnsInside_unrolled {line : Nat} {initial : Option Statement}
    {condition increment : Option Expr} {body : Statement}
    (first : ∀ statement ∈ initial, statement.returnsInside = true)
    (inside : body.returnsInside = true) :
    (unrolled line initial condition increment body).returnsInside = true := by
  have round : ∀ statement ∈
      body :: (increment.map fun expr => Statement.expression expr.line expr).toList,
      statement.returnsInside = true := by
    rintro statement (_ | ⟨_, member⟩)
    · exact inside
    · obtain ⟨expr, -, rfl⟩ := Option.map_eq_some_iff.mp (Option.mem_toList.mp member)
      rfl
  refine returnsInside_grouped fun statement member => ?_
  rcases List.mem_append.mp member with isFirst | isLoop
  · exact first statement (Option.mem_toList.mp isFirst)
  · cases List.mem_singleton.mp isLoop
    exact returnsInside_grouped round

mutual

/-- **What is spelled outside of functions holds no return** but inside of functions that it
declares. -/
theorem Spelled.returnsInside {inFunction : Bool} {tokens rest : List Token}
    {statement : Statement} (outside : inFunction = false) :
    Spelled inFunction tokens statement rest → statement.returnsInside = true
  | .value statement => statement.returnsInside
  | .print .. => rfl
  -- A return is spelled inside of functions only.
  | .giveBack .. => by cases outside
  | .block _ body _ => by
      rw [Statement.returnsInside]
      exact body.returnsInside outside
  | .branch _ _ _ _ positive _ => by
      simp [Statement.returnsInside, returnsInsideElse, positive.returnsInside outside]
  | .branchElse _ _ _ _ positive _ negative => by
      simp [Statement.returnsInside, returnsInsideElse, positive.returnsInside outside,
        negative.returnsInside outside]
  | .whileLoop _ _ _ _ body => by
      rw [Statement.returnsInside]
      exact body.returnsInside outside
  | .doWhileLoop _ body _ _ _ _ _ => by
      rw [Statement.returnsInside]
      exact body.returnsInside outside
  | .forLoop _ _ initial _ _ _ _ body =>
      returnsInside_unrolled initial.returnsInside (body.returnsInside outside)

/-- A declaration that is spelled outside of functions holds no return but inside of functions. -/
theorem SpelledDeclaration.returnsInside {inFunction : Bool} {tokens rest : List Token}
    {statement : Statement} (outside : inFunction = false) :
    SpelledDeclaration inFunction tokens statement rest → statement.returnsInside = true
  | .variable statement => statement.returnsInside
  | .function .. => rfl
  | .statement statement => statement.returnsInside outside

/-- Outside of functions no return is read. -/
theorem SpelledList.returnsInside {inFunction : Bool} {tokens rest : List Token}
    {statements : List Statement} (outside : inFunction = false) :
    SpelledList inFunction tokens statements rest → returnsInsideAll statements = true
  | .nil => rfl
  | .cons first others => by
      simp [returnsInsideAll, first.returnsInside outside, others.returnsInside outside]

end

end Statement

/-! ## What is executed -/

section

variable [Host]

/-- The values that an action gives have a property. -/
def Action.Gives (property : α → Prop) (action : Action α) : Prop :=
  ∀ ⦃machine : Machine⦄ ⦃value : α⦄ ⦃after : Machine⦄,
    action machine = .done value after → property value

/-- What an action has found, if anything, has a property. -/
def Action.Finds (property : α → Prop) (action : Action (Option α)) : Prop :=
  action.Gives fun found => ∀ value ∈ found, property value

namespace Action

variable {property : α → Prop} {result : β → Prop}

theorem gives_pure {value : α} (holds : property value) :
    (pure value : Action α).Gives property := by
  rintro machine _ _ ⟨⟩
  exact holds

theorem gives_bind {action : Action α} {next : α → Action β} (first : action.Gives property)
    (second : ∀ value, property value → (next value).Gives result) :
    (action >>= next).Gives result := by
  intro machine answer last ended
  rw [bind_apply] at ended
  cases given : action machine with
  | unfinished =>
      rw [given] at ended
      cases ended
  | failed error after =>
      rw [given] at ended
      cases ended
  | done value after =>
      rw [given] at ended
      exact second value (first given) ended

theorem gives_trivial {action : Action α} : action.Gives fun _ => True :=
  fun _ _ _ _ => trivial

/-- What follows on an action gives values with a property, whatever the action gives. -/
theorem gives_of_next {action : Action α} {next : α → Action β}
    (second : ∀ value, (next value).Gives result) : (action >>= next).Gives result :=
  gives_bind gives_trivial fun value _ => second value

/-- What is done to the machine behind an action does not change what it gives. -/
theorem gives_ending {action : Action α} {finish : Machine → Machine}
    (gives : action.Gives property) : (action.ending finish).Gives property := by
  intro machine value after ended
  unfold ending at ended
  cases given : action machine with
  | unfinished =>
      rw [given] at ended
      cases ended
  | failed error last =>
      rw [given] at ended
      cases ended
  | done other last =>
      rw [given] at ended
      cases ended
      exact gives given

/-- A search finds what is found in one of its items. -/
theorem finds_findFirst {search : σ → Action (Option α)} {items : List σ}
    (each : ∀ item ∈ items, (search item).Finds property) :
    (findFirst search items).Finds property := by
  induction items with
  | nil => exact gives_pure fun _ member => nomatch member
  | cons item rest ih =>
      intro machine found last ended
      rw [findFirst] at ended
      split at ended
      · exact ih (fun other inside => each other (.tail _ inside)) ended
      · exact each item List.mem_cons_self ended

theorem gives_repeatUntil {body : Action (Option α)} (finds : body.Finds property) (bound : Nat) :
    (repeatUntil body bound).Gives property := by
  induction bound with
  | zero => exact fun _ _ _ ended => nomatch ended
  | succ bound ih =>
      intro machine value last ended
      rw [repeatUntil] at ended
      split at ended
      · next found =>
          cases ended
          exact finds found _ rfl
      · exact ih ended
      · cases ended
      · cases ended

end Action

namespace Evaluation

open Scriptlet.Action

variable {evaluate : Expr → Action Value} {execute : Statement → Action Flow}

/-- An action that does not return. -/
def Proceeds (action : Action Flow) : Prop :=
  action.Gives (· = .normal)

theorem proceeds_normal : Proceeds (pure .normal) :=
  gives_pure rfl

/-- What does not return finds nothing to return. -/
theorem finds_asReturned? {action : Action Flow} (proceeds : Proceeds action) :
    (do return (← action).asReturned? : Action (Option Flow)).Finds (· = .normal) := by
  refine gives_bind proceeds ?_
  rintro _ rfl
  exact gives_pure fun _ member => nomatch member

theorem proceeds_sequence {statements : List Statement}
    (each : ∀ statement ∈ statements, Proceeds (execute statement)) :
    Proceeds (sequence execute statements) := by
  refine gives_bind (finds_findFirst fun statement member =>
    finds_asReturned? (each statement member)) fun found normal => ?_
  cases found with
  | none => exact proceeds_normal
  | some flow => exact gives_pure (normal flow rfl)

theorem proceeds_block {statements : List Statement}
    (each : ∀ statement ∈ statements, Proceeds (execute statement)) :
    Proceeds (block execute statements) := by
  intro machine flow after ended
  rw [block_apply] at ended
  exact gives_ending (proceeds_sequence each) ended

theorem proceeds_whileLoop {condition : Action Bool} {body : Action Flow}
    (proceeds : Proceeds body) (bound : Nat) : Proceeds (whileLoop bound condition body) := by
  refine gives_repeatUntil (gives_of_next fun holds => ?_) bound
  cases holds with
  | true => exact finds_asReturned? proceeds
  | false =>
      refine gives_pure ?_
      rintro _ ⟨⟩
      rfl

theorem proceeds_doWhileLoop {condition : Action Bool} {body : Action Flow}
    (proceeds : Proceeds body) (bound : Nat) : Proceeds (doWhileLoop bound condition body) := by
  refine gives_repeatUntil (gives_bind proceeds ?_) bound
  rintro _ rfl
  refine gives_of_next fun holds => ?_
  cases holds with
  | true => exact gives_pure fun _ member => nomatch member
  | false =>
      refine gives_pure ?_
      rintro _ ⟨⟩
      rfl

/-- A statement whose returns stand inside of functions does not return. -/
theorem proceeds_executeNode (bound : Nat) {statement : Statement}
    (executes : ∀ statement : Statement, statement.returnsInside = true →
      Proceeds (execute statement))
    (inside : statement.returnsInside = true) :
    Proceeds (executeNode bound evaluate execute statement) := by
  cases statement with
  | expression line expr =>
      rw [executeNode_expression]
      exact gives_of_next fun value => gives_of_next fun _ => proceeds_normal
  | print line expr => exact gives_of_next fun value => gives_of_next fun _ => proceeds_normal
  | declare line name initial =>
      exact gives_of_next fun value => gives_of_next fun _ => proceeds_normal
  | block line body =>
      have each := Statement.returnsInsideAll_iff.mp inside
      exact proceeds_block fun statement member => executes statement (each statement member)
  | branch line condition positive negative =>
      obtain ⟨ifSo, otherwise⟩ := Bool.and_eq_true_iff.mp inside
      refine gives_of_next fun value => ?_
      split
      · exact executes positive ifSo
      · cases negative with
        | none => exact proceeds_normal
        | some negative => exact executes negative otherwise
  | choice line condition positive negative =>
      obtain ⟨ifSo, otherwise⟩ := Bool.and_eq_true_iff.mp inside
      refine gives_of_next fun value => ?_
      split
      · exact executes positive ifSo
      · exact executes negative otherwise
  | whileLoop line condition body => exact proceeds_whileLoop (executes body inside) bound
  | doWhileLoop line body condition => exact proceeds_doWhileLoop (executes body inside) bound
  | function line name parameters body =>
      -- The body is not executed here but in a call, whose value is what it returns.
      intro machine flow after ended
      exact gives_of_next (fun _ => proceeds_normal) ended
  | giveBack line value => cases inside

end Evaluation

open Evaluation in
/-- A statement whose returns stand inside of functions does not return itself. -/
theorem proceeds_execute (bound : Nat) (statement : Statement)
    (inside : statement.returnsInside = true) : Proceeds (execute bound statement) := by
  induction bound generalizing statement with
  | zero =>
      intro machine flow after ended
      rw [execute] at ended
      cases ended
  | succ bound ih =>
      rw [execute]
      exact proceeds_executeNode bound ih inside

/-- **No return leaves a program**: where no error is reported, all returns stand inside of
functions, and no statement of the program returns, on whatever machine it is executed. -/
theorem Program.normal_of_no_errors (tokens : List Token)
    (clean : (Program.ofTokens tokens).errors = []) :
    Statement.returnsInsideAll (Program.ofTokens tokens).statements = true ∧
      ∀ statement ∈ (Program.ofTokens tokens).statements, ∀ (bound : Nat) (machine : Machine),
        ∀ flow after, execute bound statement machine = .done flow after → flow = .normal := by
  have spelled : Statement.SpelledList false tokens (Program.ofTokens tokens).statements [] :=
    Program.ofTokens_eq_iff.mp (by rw [← clean])
  have inside := spelled.returnsInside rfl
  refine ⟨inside, fun statement member bound machine flow after ended => ?_⟩
  have each := Statement.returnsInsideAll_iff.mp inside statement member
  exact proceeds_execute bound statement each ended

end

/-- A function that returns what another one does, and a call of the other one. -/
def Token.returning : List Token :=
  Program.tokensOn 1 [.keyword .funWord, .identifier "g", .symbol .leftParen, .symbol .rightParen,
    .symbol .leftBrace, .keyword .returnWord, .identifier "f", .symbol .leftParen,
    .symbol .rightParen, .symbol .semicolon, .symbol .rightBrace, .identifier "f",
    .symbol .leftParen, .symbol .rightParen, .symbol .semicolon]

/-- The theorem at a program that declares a function with a return and calls another one that
returns. -/
theorem Program.normal_of_no_errors_returning :
    (Program.ofTokens Token.returning).errors = [] ∧
      Statement.returnsInsideAll (Program.ofTokens Token.returning).statements = true ∧
      ∃ statement ∈ (Program.ofTokens Token.returning).statements, ∃ flow,
        execute 7 statement (.holding (.bool true) []) = .done flow (.holding .nil [⟨[], some 1⟩]) ∧
          flow = .normal := by
  have clean : (Program.ofTokens Token.returning).errors = [] := by rfl
  have program : (Program.ofTokens Token.returning).statements =
      [.function 1 "g" [] [.giveBack 1 (some (.call 1 (.reference 1 "f") []))],
        .expression 1 (.call 1 (.reference 1 "f") [])] := by rfl
  have executed : execute 7 (.expression 1 (.call 1 (.reference 1 "f") []))
      (.holding (.bool true) []) = .done .normal (.holding .nil [⟨[], some 1⟩]) := by
    with_unfolding_all rfl
  have member : .expression 1 (.call 1 (.reference 1 "f") []) ∈
      (Program.ofTokens Token.returning).statements := by
    rw [program]
    exact .tail _ (.head _)
  obtain ⟨inside, proceeds⟩ := Program.normal_of_no_errors Token.returning clean
  exact ⟨clean, inside, _, member, _, executed, proceeds _ member 7 _ _ _ executed⟩

end Scriptlet
