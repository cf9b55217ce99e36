import Scriptlet.Proofs.Grammar.Statement

/-!
# Bounds that suffice

A parser uses up its bound only where it gets more tokens than the bound allows for. What carries
this through the productions is how many tokens each of them takes off its input at least, for
each answer: a loop whose every round takes one goes around no more often than there are tokens,
and an expression or a statement inside of another has fewer tokens left than the outer one had.
-/

namespace Scriptlet

namespace Parser

variable {α β σ : Type} {limit bound : Nat} {least total : α → Nat}

/-- On up to `limit` tokens a parser comes to an answer. What it leaves over is the end of its
input, and behind a value shorter than the input by what the value costs at least. -/
def Consumes (parser : Parser α) (limit : Nat) (least : α → Nat) : Prop :=
  ∀ ⦃tokens : List Token⦄, tokens.length ≤ limit →
    match parser tokens with
    | .parsed value rest _ => rest <:+ tokens ∧ rest.length + least value ≤ tokens.length
    | .failed _ rest _ => rest <:+ tokens
    | .unfinished => False

/-- The tokens that an optional one takes. -/
def taken : Option α → Nat
  | some _ => 1
  | none => 0

/-- What is known of many tokens and of a high cost is known of fewer tokens and of a lower cost. -/
theorem Consumes.imp {parser : Parser α} {fewer : Nat} {less : α → Nat}
    (consumes : parser.Consumes limit least) (within : fewer ≤ limit)
    (cheaper : ∀ value, less value ≤ least value) : parser.Consumes fewer less := by
  intro tokens short
  have answer := consumes (Nat.le_trans short within)
  cases given : parser tokens with
  | parsed value rest reports =>
      rw [given] at answer
      exact ⟨answer.1, Nat.le_trans (Nat.add_le_add_left (cheaper value) rest.length) answer.2⟩
  | failed error rest reports =>
      rw [given] at answer
      exact answer
  | unfinished =>
      rw [given] at answer
      exact answer

theorem consumes_pure {value : α} (free : total value = 0) :
    (pure value : Parser α).Consumes limit total :=
  fun tokens _ => ⟨List.suffix_refl tokens, by rw [free]; exact Nat.le_refl _⟩

/-- One parser after another: the second gets what the first leaves over. -/
theorem consumes_bind {first : Parser α} {next : α → Parser β} {total : β → Nat}
    (consumes : first.Consumes limit least)
    (later : ∀ value, least value ≤ limit →
      (next value).Consumes (limit - least value) fun read => total read - least value) :
    (first >>= next).Consumes limit total := by
  intro tokens short
  have answer := consumes short
  rw [bind_apply]
  cases given : first tokens with
  | unfinished =>
      rw [given] at answer
      exact answer
  | failed error rest reports =>
      rw [given] at answer
      exact answer
  | parsed value middle reports =>
      rw [given] at answer
      obtain ⟨isEnd, used⟩ := answer
      have outcome := @later value (by omega) middle (by omega)
      cases after : next value middle with
      | unfinished =>
          rw [after] at outcome
          exact outcome.elim
      | failed error rest reports =>
          rw [after] at outcome
          simpa [after] using outcome.trans isEnd
      | parsed read rest reports =>
          rw [after] at outcome
          have both : rest.length + total read ≤ tokens.length := by
            have second : rest.length + (total read - least value) ≤ middle.length := outcome.2
            omega
          simpa [after] using And.intro (outcome.1.trans isEnd) both

theorem consumes_map {parser : Parser α} {f : α → β}
    (consumes : parser.Consumes limit fun _ => bound) :
    (f <$> parser).Consumes limit fun _ => bound := by
  rw [← bind_pure_comp]
  exact consumes_bind consumes fun value _ => consumes_pure (Nat.sub_self bound)

/-- A parser that fails comes to an answer, and gives no value that could cost anything. -/
theorem consumes_fail {fault : SyntaxFault} : (fail fault : Parser α).Consumes limit total :=
  fun tokens _ => List.suffix_refl tokens

theorem consumes_report {fault : SyntaxFault} {token : Token} :
    (report fault token).Consumes limit fun _ => 0 :=
  fun tokens _ => ⟨List.suffix_refl tokens, Nat.le_refl _⟩

theorem consumes_reportNext {fault : SyntaxFault} :
    (reportNext fault).Consumes limit fun _ => 0 :=
  fun tokens _ => ⟨List.suffix_refl tokens, Nat.le_refl _⟩

theorem consumes_nextIs {test : Token → Bool} : (nextIs test).Consumes limit fun _ => 0 :=
  fun tokens _ => ⟨List.suffix_refl tokens, Nat.le_refl _⟩

/-- An optional token costs one where it is taken. -/
theorem consumes_accept {test : Token → Option α} : (accept test).Consumes limit taken := by
  intro tokens _
  cases tokens with
  | nil => exact ⟨List.suffix_refl [], Nat.le_refl _⟩
  | cons token rest =>
      cases tested : test token with
      | none => simp [accept, tested, taken]
      | some value => simp [accept, tested, taken]

/-- An expected token costs one. -/
theorem consumes_expect {test : Token → Option α} {what : Expectation} :
    (expect test what).Consumes limit fun _ => 1 := by
  intro tokens _
  cases tokens with
  | nil => exact List.suffix_refl []
  | cons token rest => cases tested : test token <;> simp [expect, tested]

/-- What a round of a loop costs at least: a token, unless it is the last one. -/
def roundCost : Progress σ α → Nat
  | .more _ => 1
  | .done _ => 0

/-- A loop whose rounds each take a token is done before its bound is used up. -/
theorem consumes_iterate {step : σ → Parser (Progress σ α)} {state : σ}
    (round : ∀ state, (step state).Consumes limit roundCost) (within : limit < bound) :
    (iterate step bound state).Consumes limit fun _ => 0 := by
  induction bound generalizing limit state with
  | zero => omega
  | succ bound ih =>
      refine consumes_bind (round state) fun progress present => ?_
      cases progress with
      | done value => exact consumes_pure rfl
      | more state =>
          refine (ih (fun state => (round state).imp (Nat.sub_le limit 1)
            fun _ => Nat.le_refl _) ?_).imp (Nat.le_refl _) fun _ => Nat.zero_le _
          rw [roundCost] at present
          omega

end Parser

namespace Grammar

open Scriptlet.Parser

variable {α : Type} {limit bound : Nat} {expr operand inner : Parser Expr} {level : Level}

/-! ## Expressions -/

theorem consumes_listRound {kind : ListKind} {item : Parser α} {state : Nat × List α}
    (consumes : item.Consumes limit fun _ => 1) :
    (listRound kind item state).Consumes limit roundCost := by
  obtain ⟨count, items⟩ := state
  by_cases full : maxListLength ≤ count
  · simp only [listRound, full, ↓reduceIte]
    refine consumes_bind consumes_reportNext fun _ _ => ?_
    refine consumes_bind consumes fun value _ => consumes_bind consumes_accept fun accepted _ => ?_
    cases accepted <;> exact consumes_pure rfl
  · simp only [listRound, full, ↓reduceIte]
    refine consumes_bind consumes fun value _ => consumes_bind consumes_accept fun accepted _ => ?_
    cases accepted <;> exact consumes_pure rfl

/-- Lists come to an answer if their items do: the bound is above the number of their tokens. -/
theorem consumes_commaSeparated {kind : ListKind} {item : Parser α}
    (consumes : item.Consumes limit fun _ => 1) (within : limit < bound) :
    (commaSeparated bound kind item).Consumes limit fun _ => 0 := by
  rw [commaSeparated_eq]
  refine consumes_bind consumes_nextIs fun ended _ => ?_
  cases ended with
  | true => exact consumes_pure rfl
  | false => exact consumes_iterate (fun _ => consumes_listRound consumes) within

theorem consumes_chain (consumes : operand.Consumes limit fun _ => 1) (within : limit ≤ bound) :
    (chain bound level operand).Consumes limit fun _ => 1 := by
  rw [chain_eq]
  refine consumes_bind consumes fun first _ =>
    consumes_iterate (fun left => consumes_bind consumes_accept fun accepted _ => ?_) (by omega)
  cases accepted with
  | none => exact consumes_pure rfl
  | some accepted =>
      refine consumes_bind (consumes.imp (by omega) fun _ => Nat.le_refl _) fun right _ => ?_
      exact consumes_pure rfl

/-- Chains of all levels take a token at least, as what they are chains of does. -/
theorem consumes_chains {levels : List Level} (consumes : operand.Consumes limit fun _ => 1)
    (within : limit ≤ bound) : (chains bound operand levels).Consumes limit fun _ => 1 := by
  induction levels with
  | nil => exact consumes
  | cons level tighter ih => exact consumes_chain ih within

theorem consumes_signed (consumes : operand.Consumes limit fun _ => 1) (within : limit < bound) :
    (signed bound operand).Consumes limit fun _ => 1 := by
  rw [signed_eq]
  refine consumes_bind (consumes_iterate (fun signs => ?_) within) fun signs _ =>
    consumes_bind consumes fun operand _ => consumes_pure rfl
  refine consumes_bind consumes_accept fun accepted _ => ?_
  cases accepted with
  | none => exact consumes_pure rfl
  | some sign => exact consumes_pure rfl

/-- Calls cost the callee; arguments are read behind a parenthesis, on fewer tokens. -/
theorem consumes_calls (consumes : operand.Consumes limit fun _ => 1)
    (argument : 1 ≤ limit → inner.Consumes (limit - 1) fun _ => 1) (within : limit ≤ bound) :
    (calls bound operand inner).Consumes limit fun _ => 1 := by
  rw [calls_eq]
  refine consumes_bind consumes fun callee present =>
    consumes_iterate (fun left => consumes_bind consumes_accept fun accepted more => ?_) (by omega)
  cases accepted with
  | none => exact consumes_pure rfl
  | some opening =>
      have list : (commaSeparated bound .arguments inner).Consumes
          (limit - 1 - taken (some opening))
          fun _ => 0 :=
        consumes_commaSeparated ((argument present).imp (Nat.sub_le _ _) fun _ => Nat.le_refl _)
          (by simp only [taken] at more ⊢; omega)
      exact consumes_bind list fun arguments _ =>
        consumes_bind consumes_expect fun closing _ => consumes_pure rfl

/-- What stands between parentheses is read on fewer tokens. -/
theorem consumes_primary (consumes : 1 ≤ limit → inner.Consumes (limit - 1) fun _ => 1) :
    (primary inner).Consumes limit fun _ => 1 := by
  refine consumes_bind consumes_accept fun accepted _ => ?_
  cases accepted with
  | some expr => exact consumes_pure rfl
  | none =>
      refine consumes_bind consumes_accept fun accepted present => ?_
      cases accepted with
      | none => exact consumes_fail
      | some opening =>
          refine consumes_bind (consumes present) fun grouped _ => ?_
          exact consumes_bind consumes_expect fun closing _ => consumes_pure rfl

theorem consumes_assignTo {target otherwise : Expr} {operator : Token}
    {build : Nat → String → Expr} :
    (assignTo target operator build otherwise).Consumes limit fun _ => 0 := by
  cases target with
  | reference line name => exact consumes_pure rfl
  | _ => exact consumes_bind consumes_report fun _ _ => consumes_pure rfl

/-- An assignment costs its target; the value is read behind an operator, on fewer tokens. -/
theorem consumes_assignment (consumes : operand.Consumes limit fun _ => 1)
    (value : 1 ≤ limit → inner.Consumes (limit - 1) fun _ => 1) :
    (assignment operand inner).Consumes limit fun _ => 1 := by
  refine consumes_bind consumes fun target present =>
    consumes_bind consumes_accept fun accepted _ => ?_
  have behind : inner.Consumes (limit - 1 - 1) fun _ => 1 :=
    (value present).imp (Nat.sub_le _ _) fun _ => Nat.le_refl _
  rcases accepted with _ | ⟨_ | op | ⟨op, amount⟩, operator⟩
  · exact consumes_pure rfl
  · exact consumes_bind behind fun value _ => consumes_assignTo
  · exact consumes_bind behind fun value _ => consumes_assignTo
  · exact consumes_assignTo

/-- An expression comes to an answer when the bound exceeds the number of tokens by two. -/
theorem consumes_expression (levels : List Level) (within : limit + 2 ≤ bound) :
    (expression levels bound).Consumes limit fun _ => 1 := by
  induction bound generalizing limit with
  | zero => omega
  | succ bound ih =>
      have inside (present : 1 ≤ limit) :
          (expression levels bound).Consumes (limit - 1) fun _ => 1 :=
        ih (by omega)
      have operand : (signed bound (calls bound (primary (expression levels bound))
          (expression levels bound))).Consumes limit fun _ => 1 :=
        consumes_signed (consumes_calls (consumes_primary inside) inside (by omega)) (by omega)
      exact consumes_assignment (consumes_chains operand (by omega)) inside

/-! ## Statements -/

variable {statement : Parser Statement} {body : Parser (List Statement)}

/-- Recovery leaves an end of the tokens behind a failure. -/
theorem resumeAfter_suffix (previous : Token) (tokens : List Token) :
    resumeAfter previous tokens <:+ tokens := by
  induction tokens generalizing previous with
  | nil => exact List.suffix_refl []
  | cons token rest ih =>
      unfold resumeAfter
      split
      · exact List.suffix_refl _
      · exact (ih token).trans (List.suffix_cons token rest)

/-- Recovery skips at least one token, where there is one. -/
theorem resume_suffix_tail (tokens : List Token) : resume tokens <:+ tokens.tail := by
  cases tokens with
  | nil => exact List.suffix_refl []
  | cons token rest => exact resumeAfter_suffix token rest

/-- A declaration where there is one takes a token, even if it fails: recovery skips the token that
could not be used. -/
theorem recovering_cons {token : Token} {rest : List Token}
    (consumes : statement.Consumes limit fun _ => 1) (short : (token :: rest).length ≤ limit) :
    ∃ read left reports,
      recovering statement (token :: rest) = .parsed read left reports ∧ left <:+ rest := by
  have answer := consumes short
  unfold recovering
  cases given : statement (token :: rest) with
  | unfinished =>
      rw [given] at answer
      exact answer.elim
  | parsed value left reports =>
      rw [given] at answer
      obtain ⟨isEnd, fewer⟩ := answer
      refine ⟨some value, left, reports, rfl, ?_⟩
      rcases List.suffix_cons_iff.mp isEnd with rfl | behind
      · exact absurd fewer (Nat.not_succ_le_self _)
      · exact behind
  | failed error left reports =>
      rw [given] at answer
      refine ⟨none, resume left, error :: reports, rfl, (resume_suffix_tail left).trans ?_⟩
      rcases List.suffix_cons_iff.mp answer with rfl | behind
      · exact List.suffix_refl rest
      · exact (List.tail_suffix left).trans behind

/-- A declaration costs a token also where it fails: recovery takes one. -/
theorem consumes_declarationRound {stop : Token → Bool} {statements : List Statement}
    (consumes : statement.Consumes limit fun _ => 1) :
    (declarationRound stop (recovering statement) statements).Consumes limit roundCost := by
  intro tokens short
  cases tokens with
  | nil => exact ⟨List.suffix_refl [], Nat.le_refl _⟩
  | cons token rest =>
      cases stopped : stop token with
      | true => simp [declarationRound, bind_apply, atEnd, nextIs, stopped, roundCost]
      | false =>
          obtain ⟨read, left, reports, given, behind⟩ := recovering_cons consumes short
          have isEnd : left <:+ token :: rest := behind.trans (List.suffix_cons token rest)
          have fewer := behind.length_le
          cases read <;> simpa [declarationRound, bind_apply, atEnd, nextIs, stopped, given,
            roundCost] using And.intro isEnd fewer

/-- Declarations come to an answer if each one does. -/
theorem consumes_declarations {stop : Token → Bool} (consumes : statement.Consumes limit fun _ => 1)
    (within : limit < bound) :
    (declarations bound stop (recovering statement)).Consumes limit fun _ => 0 := by
  rw [declarations_eq]
  exact consumes_iterate (fun _ => consumes_declarationRound consumes) within

theorem consumes_block (consumes : statement.Consumes limit fun _ => 1) (within : limit < bound) :
    (block bound (recovering statement)).Consumes limit fun _ => 0 := by
  refine consumes_bind (consumes_declarations consumes within) fun body _ => ?_
  exact consumes_bind consumes_expect fun closing _ => consumes_pure rfl

/-- The body of a function is read on fewer tokens. -/
theorem consumes_function (inside : 1 ≤ limit → body.Consumes (limit - 1) fun _ => 0)
    (within : limit ≤ bound) : (function bound body).Consumes limit fun _ => 1 := by
  refine consumes_bind consumes_expect fun name present => ?_
  refine consumes_bind consumes_expect fun opening _ => ?_
  have parameter : (do return (← expectIdentifier .parameterName).1 : Parser String).Consumes
      (limit - 1 - 1) fun _ => 1 := consumes_bind consumes_expect fun name _ => consumes_pure rfl
  refine consumes_bind (consumes_commaSeparated parameter (by omega)) fun parameters _ => ?_
  refine consumes_bind consumes_expect fun closing _ => ?_
  refine consumes_bind consumes_expect fun brace _ => ?_
  refine consumes_bind ((inside present).imp (by omega) fun _ => Nat.le_refl _)
    fun statements _ => ?_
  exact consumes_pure rfl

/-- The value of a variable is read on fewer tokens. -/
theorem consumes_variableDeclaration (consumes : 1 ≤ limit → expr.Consumes (limit - 1) fun _ => 1) :
    (variableDeclaration expr).Consumes limit fun _ => 1 := by
  refine consumes_bind consumes_expect fun name present => ?_
  refine consumes_bind consumes_accept fun accepted _ => ?_
  cases accepted with
  | some equal =>
      refine consumes_bind (consumes_map ((consumes present).imp (by omega) fun _ => Nat.le_refl _))
        fun initial _ => ?_
      exact consumes_bind consumes_expect fun closing _ => consumes_pure rfl
  | none =>
      exact consumes_bind (@consumes_pure _ _ (fun _ => 0) _ rfl) fun initial _ =>
        consumes_bind consumes_expect fun closing _ => consumes_pure rfl

theorem consumes_print {colonMayEnd : Bool} (consumes : expr.Consumes limit fun _ => 1) :
    (print line colonMayEnd expr).Consumes limit fun _ => 1 := by
  have semicolon {value : Expr} {limit : Nat} :
      (do let _ ← expectSymbol .semicolon .semicolonAfterPrint
          return .print line value : Parser Statement).Consumes limit fun _ => 0 :=
    consumes_bind consumes_expect fun closing _ => consumes_pure rfl
  refine consumes_bind consumes fun value _ => ?_
  cases colonMayEnd with
  | false => exact semicolon
  | true =>
      refine consumes_bind consumes_accept fun accepted _ => ?_
      cases accepted with
      | none => exact semicolon
      | some colon => exact consumes_pure rfl

theorem consumes_choiceBranch {colonMayEnd : Bool} {symbol : Symbol} {what : Expectation}
    (consumes : expr.Consumes limit fun _ => 1) :
    (choiceBranch colonMayEnd symbol what expr).Consumes limit fun _ => 1 := by
  refine consumes_bind consumes_accept fun accepted _ => ?_
  cases accepted with
  | some keyword =>
      exact (consumes_print consumes).imp (Nat.sub_le _ _) fun _ => Nat.sub_le _ _
  | none =>
      exact consumes_bind consumes fun value _ =>
        consumes_bind consumes_expect fun closing _ => consumes_pure rfl

theorem consumes_expressionStatement (consumes : expr.Consumes limit fun _ => 1) :
    (expressionStatement expr).Consumes limit fun _ => 1 := by
  refine consumes_bind consumes fun value _ => consumes_bind consumes_accept fun accepted _ => ?_
  cases accepted with
  | none => exact consumes_bind consumes_expect fun closing _ => consumes_pure rfl
  | some question =>
      have inside : expr.Consumes (limit - 1 - 1) fun _ => 1 :=
        consumes.imp (by omega) fun _ => Nat.le_refl _
      rw [choice_eq]
      refine consumes_bind (consumes_choiceBranch inside) fun positive _ => ?_
      refine consumes_bind ((consumes_choiceBranch inside).imp (Nat.sub_le _ _) fun _ =>
        Nat.le_refl _) fun negative _ => ?_
      exact consumes_pure rfl

/-- The first clause of a loop costs the semicolon at least. -/
theorem consumes_initialClause (consumes : expr.Consumes limit fun _ => 1) :
    (initialClause expr).Consumes limit fun _ => 1 := by
  refine consumes_bind consumes_accept fun accepted _ => ?_
  cases accepted with
  | some closing => exact consumes_pure rfl
  | none =>
      refine consumes_bind consumes_accept fun accepted _ => ?_
      cases accepted with
      | some keyword =>
          refine (consumes_map (consumes_variableDeclaration fun _ => ?_)).imp (Nat.le_refl _)
            fun _ => Nat.sub_le _ _
          exact consumes.imp (by omega) fun _ => Nat.le_refl _
      | none => exact consumes_map (consumes_expressionStatement consumes)

/-- A clause that may be left out may cost nothing. -/
theorem consumes_unlessNext {symbol : Symbol} (consumes : expr.Consumes limit fun _ => 1) :
    (unlessNext symbol expr).Consumes limit fun _ => 0 := by
  refine consumes_bind consumes_nextIs fun missing _ => ?_
  cases missing with
  | true => exact consumes_pure rfl
  | false => exact (consumes_map consumes).imp (Nat.le_refl _) fun _ => Nat.zero_le _

theorem consumes_forLoop (consumes : expr.Consumes limit fun _ => 1)
    (inside : statement.Consumes limit fun _ => 1) :
    (forLoop line expr statement).Consumes limit fun _ => 1 := by
  have shorter {fewer : Nat} (within : fewer ≤ limit) : expr.Consumes fewer fun _ => 1 :=
    consumes.imp within fun _ => Nat.le_refl _
  refine consumes_bind consumes_expect fun opening _ => ?_
  refine consumes_bind (consumes_initialClause (shorter (by omega))) fun initial _ => ?_
  refine consumes_bind (consumes_unlessNext (shorter (by omega))) fun condition _ => ?_
  refine consumes_bind consumes_expect fun separator _ => ?_
  refine consumes_bind (consumes_unlessNext (shorter (by omega))) fun increment _ => ?_
  refine consumes_bind consumes_expect fun closing _ => ?_
  refine consumes_bind (inside.imp (by omega) fun _ => Nat.le_refl _) fun body _ => ?_
  exact consumes_pure rfl

theorem consumes_branch (consumes : expr.Consumes limit fun _ => 1)
    (inside : statement.Consumes limit fun _ => 1) :
    (branch line expr statement).Consumes limit fun _ => 1 := by
  have shorter {fewer : Nat} (within : fewer ≤ limit) : statement.Consumes fewer fun _ => 1 :=
    inside.imp within fun _ => Nat.le_refl _
  refine consumes_bind consumes_expect fun opening _ => ?_
  refine consumes_bind (consumes.imp (by omega) fun _ => Nat.le_refl _) fun condition _ => ?_
  refine consumes_bind consumes_expect fun closing _ => ?_
  refine consumes_bind (shorter (by omega)) fun positive _ => ?_
  refine consumes_bind consumes_accept fun accepted _ => ?_
  cases accepted with
  | some otherwise =>
      exact consumes_bind (shorter (by omega)) fun negative _ => consumes_pure rfl
  | none => exact consumes_pure rfl

theorem consumes_giveBack {keyword : Token} {inFunction : Bool}
    (consumes : expr.Consumes limit fun _ => 1) :
    (giveBack keyword inFunction expr).Consumes limit fun _ => 1 := by
  have value : (do
      let value ← unlessNext .semicolon expr
      let _ ← expectSymbol .semicolon .semicolonAfterReturn
      return .giveBack keyword.line value : Parser Statement).Consumes limit fun _ => 1 :=
    consumes_bind (consumes_unlessNext consumes) fun value _ =>
      consumes_bind consumes_expect fun closing _ => consumes_pure rfl
  cases inFunction with
  | true => exact value
  | false => exact consumes_bind consumes_report fun _ _ => value

theorem consumes_whileLoop (consumes : expr.Consumes limit fun _ => 1)
    (inside : statement.Consumes limit fun _ => 1) :
    (whileLoop line expr statement).Consumes limit fun _ => 1 := by
  refine consumes_bind consumes_expect fun opening _ => ?_
  refine consumes_bind (consumes.imp (by omega) fun _ => Nat.le_refl _) fun condition _ => ?_
  refine consumes_bind consumes_expect fun closing _ => ?_
  refine consumes_bind (inside.imp (by omega) fun _ => Nat.le_refl _) fun body _ => ?_
  exact consumes_pure rfl

theorem consumes_doWhileLoop (consumes : expr.Consumes limit fun _ => 1)
    (inside : statement.Consumes limit fun _ => 1) :
    (doWhileLoop line expr statement).Consumes limit fun _ => 1 := by
  refine consumes_bind inside fun body _ => ?_
  refine consumes_bind consumes_expect fun again _ => ?_
  refine consumes_bind consumes_expect fun opening _ => ?_
  refine consumes_bind (consumes.imp (by omega) fun _ => Nat.le_refl _) fun condition _ => ?_
  refine consumes_bind consumes_expect fun closing _ => ?_
  exact consumes_bind consumes_expect fun ending _ => consumes_pure rfl

/-- A statement behind its opening is read on fewer tokens, and so is a block. -/
theorem consumes_statementOf {inFunction : Bool} (consumes : expr.Consumes limit fun _ => 1)
    (inside : 1 ≤ limit → statement.Consumes (limit - 1) fun _ => 1)
    (block : 1 ≤ limit → body.Consumes (limit - 1) fun _ => 0) :
    (statementOf inFunction expr statement body).Consumes limit fun _ => 1 := by
  refine consumes_bind consumes_accept fun accepted present => ?_
  rcases accepted with _ | ⟨opening, token⟩
  · exact consumes_expressionStatement consumes
  · have behind : expr.Consumes (limit - 1) fun _ => 1 :=
      consumes.imp (Nat.sub_le _ _) fun _ => Nat.le_refl _
    have spent {parser : Parser Statement} (consumes : parser.Consumes (limit - 1) fun _ => 1) :
        parser.Consumes (limit - 1) fun _ => 1 - 1 :=
      consumes.imp (Nat.le_refl _) fun _ => Nat.zero_le _
    cases opening with
    | brace => exact consumes_bind (block present) fun inside _ => consumes_pure rfl
    | forWord => exact spent (consumes_forLoop behind (inside present))
    | ifWord => exact spent (consumes_branch behind (inside present))
    | printWord => exact spent (consumes_print behind)
    | returnWord => exact spent (consumes_giveBack behind)
    | whileWord => exact spent (consumes_whileLoop behind (inside present))
    | doWord => exact spent (consumes_doWhileLoop behind (inside present))

/-- What stands behind the keyword of a declaration is read on fewer tokens. -/
theorem consumes_declared (consumes : 1 ≤ limit → expr.Consumes (limit - 1) fun _ => 1)
    (statements : statement.Consumes limit fun _ => 1)
    (inside : 1 ≤ limit → body.Consumes (limit - 1) fun _ => 0) (within : limit ≤ bound) :
    (declared bound expr statement body).Consumes limit fun _ => 1 := by
  refine consumes_bind consumes_accept fun accepted present => ?_
  cases accepted with
  | some keyword =>
      refine (consumes_function (fun _ => ?_) ?_).imp (Nat.le_refl _) fun _ => Nat.sub_le _ _
      · exact (inside present).imp (Nat.sub_le _ _) fun _ => Nat.le_refl _
      · exact Nat.le_trans (Nat.sub_le _ _) within
  | none =>
      refine consumes_bind consumes_accept fun accepted present => ?_
      cases accepted with
      | some keyword =>
          refine (consumes_variableDeclaration fun _ => ?_).imp (Nat.le_refl _)
            fun _ => Nat.sub_le _ _
          exact (consumes present).imp (Nat.sub_le _ _) fun _ => Nat.le_refl _
      | none => exact statements

/-- A statement comes to an answer when the bound is two for each token and three more, and a
declaration when it is one more than that. -/
theorem consumes_statement (levels : List Level) (bound : Nat) :
    (∀ {limit}, 2 * limit + 3 ≤ bound → ∀ inFunction,
      (Grammar.statement levels bound inFunction).Consumes limit fun _ => 1) ∧
    ∀ {limit}, 2 * limit + 4 ≤ bound → ∀ inFunction,
      (oneDeclaration levels inFunction bound).Consumes limit fun _ => 1 := by
  induction bound with
  | zero => exact ⟨fun enough => by omega, fun enough => by omega⟩
  | succ bound ih =>
      obtain ⟨statements, declarations⟩ := ih
      constructor
      · intro limit enough inFunction
        rw [statement_succ, declaration_eq]
        exact consumes_statementOf (consumes_expression levels (by omega))
          (fun _ => statements (by omega) inFunction)
          fun _ => consumes_block (declarations (by omega) inFunction) (by omega)
      · intro limit enough inFunction
        rw [oneDeclaration, declaration_eq]
        exact consumes_declared (fun _ => consumes_expression levels (by omega))
          (statements (by omega) inFunction)
          (fun _ => consumes_block (declarations (by omega) true) (by omega)) (by omega)

/-- **A bound that depends on the number of tokens alone is enough**: a program of at most that many
tokens is read to an answer. -/
theorem consumes_program (levels : List Level) (enough : 2 * limit + 4 ≤ bound) :
    (program levels bound).Consumes limit fun _ => 0 := by
  rw [program, declaration_eq]
  exact consumes_declarations ((consumes_statement levels bound).2 enough false) (by omega)

end Grammar

end Scriptlet
