import Scriptlet.Proofs.Grammar.Expression

/-!
# Expressions that are read are spelled

What the parser of expressions reads cleanly is an expression that its tokens spell. Behind a chain
of operators stands none that binds as tightly; this is why the level of products, which lists the
operator of powers too, never gets to read it.
-/

namespace Scriptlet.Grammar

open Scriptlet.Parser

variable {bound rank : Nat} {tokens rest : List Token} {expr : Expr} {inner : Parser Expr}

/-- A parser of expressions reads only what its tokens spell at a rank. -/
def ReadsSpelled (parser : Parser Expr) (rank : Nat) : Prop :=
  ∀ ⦃tokens expr rest⦄, parser.Reads tokens expr rest → Expr.Spelled rank tokens expr rest

/-! ## What stands by itself, calls and signs -/

/-- A primary expression is spelled by what it is read from. -/
theorem readsSpelled_primary (spelled : ReadsSpelled inner 0) :
    ReadsSpelled (primary inner) 10 := by
  intro tokens expr rest reads
  rcases reads_primary_iff.mp reads with
    ⟨token, rfl, stands⟩ | ⟨opening, inside, closing, grouped, rfl, opens, read, closes, rfl⟩
  · rcases ofToken?_expr_eq_some_iff.mp stands with ⟨value, isValue, rfl⟩ | ⟨name, isName, rfl⟩
    · exact .literal isValue
    · exact .reference isName
  · exact .grouping opens (spelled read) closes

/-- Arguments with commas between them spell a list of arguments. -/
theorem spelledArguments_of_separated {arguments : List Expr} (spelled : ReadsSpelled inner 0)
    (separated : Separated inner.Reads tokens arguments rest) :
    Expr.SpelledArguments tokens arguments rest := by
  induction separated with
  | last read => exact .last (spelled read)
  | more read isComma _ ih => exact .more (spelled read) isComma ih

/-- A call round spells one more call behind what was read before. -/
theorem spelled_callRound {callee : Expr} {behind : List Token} (spelled : ReadsSpelled inner 0)
    (before : Expr.Spelled 9 tokens callee behind)
    (round : (callRound bound inner callee).Reads behind (.more expr) rest) :
    Expr.Spelled 9 tokens expr rest := by
  obtain ⟨opening, inside, arguments, closing, rfl, opens, read, closes, rfl⟩ :=
    reads_callRound_more_iff.mp round
  rcases separated_of_reads read with ⟨rfl, rfl⟩ | ⟨separated, few⟩
  · exact .bareCall before opens closes
  · exact .call before opens (spelledArguments_of_separated spelled separated) few closes

/-- Calls are spelled by what they are read from. -/
theorem readsSpelled_calls (spelled : ReadsSpelled inner 0) :
    ReadsSpelled (calls bound (primary inner) inner) 9 := by
  intro tokens expr rest reads
  rw [calls_eq, reads_bind_iff] at reads
  obtain ⟨callee, middle, first, reads⟩ := reads
  obtain ⟨count, last, behind, -, rounds, done⟩ := reads_iterate_iff.mp reads
  obtain ⟨rfl, rfl, -⟩ := reads_callRound_done_iff.mp done
  have start : Expr.Spelled 9 tokens callee middle := .tighter (readsSpelled_primary spelled first)
  clear first done reads
  induction rounds with
  | none => exact start
  | first round _ ih => exact ih (spelled_callRound spelled start round)

/-- Signs and their operand are spelled by what they are read from. -/
theorem readsSpelled_signed {operand : Parser Expr} (spelled : ReadsSpelled operand 9) :
    ReadsSpelled (signed bound operand) 8 := by
  intro tokens expr rest reads
  rw [signed_eq] at reads
  simp only [reads_bind_iff, reads_iterate_iff, reads_pure_iff] at reads
  obtain ⟨signs, middle, ⟨count, last, behind, -, rounds, done⟩, base, _, read, rfl, rfl⟩ := reads
  obtain ⟨rfl, rfl, -⟩ := reads_signRound_done_iff.mp done
  obtain ⟨more, same, -, -, spells⟩ := rounds_signs rounds
  rw [List.append_nil] at same
  subst same
  exact spells base _ (.tighter (spelled read))

/-! ## Chains of operators -/

/-- A parser of expressions reads only what its tokens spell at a rank, and stops before an
operator that binds as tightly. -/
def ReadsStopping (parser : Parser Expr) (rank : Nat) : Prop :=
  ∀ ⦃tokens expr rest⦄, parser.Reads tokens expr rest →
    Expr.Spelled rank tokens expr rest ∧ Ahead (Stops rank) rest

/-- What binds as tightly as a sign stops at any operator. -/
theorem ReadsSpelled.stopping {parser : Parser Expr} (spelled : ReadsSpelled parser 8) :
    ReadsStopping parser 8 := by
  refine fun tokens expr rest reads => ⟨spelled reads, fun token _ connective _ => ?_⟩
  rcases connective with op | op
  all_goals
    cases op
    all_goals exact of_decide_eq_true rfl

variable {level : Level} {operand : Parser Expr} {left : Expr}

/-- Before a round stands no operator that binds more tightly than the level, so that the round
reads one of its own, even if the level lists others. -/
theorem spelled_chainRound {behind : List Token} (covers : Covers level rank)
    (reading : ReadsStopping operand (rank + 1)) (before : Expr.Spelled rank tokens left behind)
    (stops : Ahead (Stops (rank + 1)) behind)
    (round : (chainRound level operand left).Reads behind (.more expr) rest) :
    Expr.Spelled rank tokens expr rest ∧ Ahead (Stops (rank + 1)) rest := by
  obtain ⟨operator, inside, connective, right, rfl, onLevel, read, rfl⟩ :=
    reads_chainRound_more_iff.mp round
  obtain ⟨sameKind, atLeast⟩ := covers.sound onLevel
  have atMost : connective.rank < rank + 1 := stops operator rfl connective sameKind
  obtain rfl : connective.rank = rank := by omega
  obtain ⟨spelled, stopped⟩ := reading read
  exact ⟨.binary before sameKind.symm spelled, stopped⟩

/-- Rounds of a chain spell its operators, one behind the other, and stop in front of those that
bind more tightly. -/
theorem spelled_of_chainRounds {count : Nat} {behind : List Token} (covers : Covers level rank)
    (reading : ReadsStopping operand (rank + 1))
    (rounds : Rounds (chainRound level operand) count left behind expr rest)
    (before : Expr.Spelled rank tokens left behind) (stops : Ahead (Stops (rank + 1)) behind) :
    Expr.Spelled rank tokens expr rest ∧ Ahead (Stops (rank + 1)) rest := by
  induction rounds with
  | none => exact ⟨before, stops⟩
  | first round _ ih =>
      obtain ⟨spelled, stopped⟩ := spelled_chainRound covers reading before stops round
      exact ih spelled stopped

/-- A chain is spelled by what it is read from, on its own level. -/
theorem readsStopping_chain (covers : Covers level rank)
    (reading : ReadsStopping operand (rank + 1)) :
    ReadsStopping (chain bound level operand) rank := by
  intro tokens expr rest reads
  rw [chain_eq, reads_bind_iff] at reads
  obtain ⟨first, middle, read, reads⟩ := reads
  obtain ⟨count, last, behind, -, rounds, done⟩ := reads_iterate_iff.mp reads
  obtain ⟨rfl, rfl, ends⟩ := reads_chainRound_done_iff.mp done
  obtain ⟨start, stops⟩ := reading read
  obtain ⟨spelled, stopped⟩ := spelled_of_chainRounds covers reading rounds (.tighter start) stops
  refine ⟨spelled, fun token ahead connective sameKind => ?_⟩
  have atMost := stopped token ahead connective sameKind
  have other : connective.rank ≠ rank := by
    intro same
    have onLevel := covers.complete same
    rw [sameKind, ends token ahead] at onLevel
    cases onLevel
  omega

theorem readsStopping_chains {levels : List Level} (covers : CoversFrom rank levels)
    (reading : ReadsStopping operand (rank + levels.length)) :
    ReadsStopping (chains bound operand levels) rank := by
  induction levels generalizing rank with
  | nil => exact reading
  | cons level tighter ih =>
      refine readsStopping_chain covers.1 (ih covers.2 ?_)
      rwa [List.length_cons, Nat.add_comm tighter.length 1, ← Nat.add_assoc] at reading

/-! ## Expressions -/

/-- What spells a reference, at whatever rank, is one token. -/
theorem identifier_of_spelled_reference {rank line : Nat} {tokens rest : List Token}
    {expr : Expr} {name : String} : Expr.Spelled rank tokens expr rest →
    expr = .reference line name →
    ∃ token, tokens = token :: rest ∧ token.kind = .identifier name ∧ token.line = line
  | .tighter inside, same => identifier_of_spelled_reference inside same
  | .reference isName, same => by
      cases same
      exact ⟨_, rfl, isName, rfl⟩
  | @Expr.Spelled.binary _ _ _ _ connective _ _ _ _ _, same => by cases connective <;> cases same
  | .literal _, same | .grouping _ _ _, same | .bareCall _ _ _, same | .call _ _ _ _ _, same
  | .unary _ _, same | .assign _ _ _, same | .update _ _ _ _, same | .step _ _ _, same => by
      cases same

/-- An assignment is spelled by what it is read from, on the lowest level. -/
theorem readsSpelled_assignment {value : Parser Expr} (reading : ReadsStopping operand 1)
    (spelled : ReadsSpelled value 0) : ReadsSpelled (assignment operand value) 0 := by
  intro tokens expr rest reads
  rcases reads_assignment_iff.mp reads with ⟨alone, -⟩ |
      ⟨line, name, operator, behind, first, assigned⟩
  · exact .tighter (reading alone).1
  obtain ⟨target, rfl, isName, rfl⟩ := identifier_of_spelled_reference (reading first).1 rfl
  rcases assigned with ⟨right, isSet, read, rfl⟩ | ⟨op, right, takes, isUpdate, read, rfl⟩ |
    ⟨op, amount, steps, isStep, rfl, rfl⟩
  · exact .assign isName isSet (spelled read)
  · exact .update isName takes isUpdate (spelled read)
  · exact .step isName steps isStep

/-- **Expressions that are read are spelled.** -/
theorem readsSpelled_expression : ReadsSpelled (expression Level.all bound) 0 := by
  induction bound with
  | zero => exact fun _ _ _ reads => absurd reads not_reads_exhausted
  | succ bound ih =>
      have signs : ReadsSpelled (signed bound (calls bound (primary (expression Level.all bound))
          (expression Level.all bound))) 8 := readsSpelled_signed (readsSpelled_calls ih)
      exact readsSpelled_assignment (readsStopping_chains coversFrom_all signs.stopping) ih

end Scriptlet.Grammar
