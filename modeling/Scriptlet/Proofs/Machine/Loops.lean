import Scriptlet.Proofs.Machine.Bound

/-!
# Loops that check their condition last

A loop that checks its condition last executes its body first, and from there on it does what a loop
does that checks its condition first. The two are repeated in rounds that begin at different points,
and each ends under a bound where the other one does under the same bound or the next.
-/

namespace Scriptlet

variable [Host]

/-- A statement ends on a machine, under some bound, and so under every greater one. -/
def Statement.EndsIn (statement : Statement) (machine : Machine) (outcome : Outcome Flow) : Prop :=
  outcome ≠ .unfinished ∧ ∃ bound, execute bound statement machine = outcome

/-- What comes behind a statement: something that ends in `outcome` where the statement ended
normally, and nothing where it failed or returned. -/
def Outcome.FollowedBy (first : Outcome Flow) (behind : Machine → Outcome Flow → Prop)
    (outcome : Outcome Flow) : Prop :=
  match first with
  | .done .normal after => behind after outcome
  | first => outcome = first

/-- One action and, unless it returns, another one behind it. -/
def Action.unlessReturned (first behind : Action Flow) : Action Flow := do
  match ← first with
  | .returned value => return .returned value
  | .normal => behind

section Ends

variable {α : Type} {outcome other : Outcome α}

/-- An outcome that ends is that of every greater bound. -/
theorem Outcome.EndsAs.eq (ends : outcome.EndsAs other) (finished : outcome ≠ .unfinished) :
    other = outcome := by
  cases ends with
  | unfinished => exact absurd rfl finished
  | same => rfl

end Ends

namespace Statement.EndsIn

variable {statement : Statement} {machine : Machine} {outcome last : Outcome Flow}

/-- Where a statement ends, it does so under every bound that is great enough. -/
theorem exists_bound (ends : statement.EndsIn machine outcome) :
    ∃ bound, ∀ larger ≥ bound, execute larger statement machine = outcome := by
  obtain ⟨finished, bound, rfl⟩ := ends
  exact ⟨bound, fun larger more => ((endsAs_evaluate_execute more).2 statement machine).eq finished⟩

/-- A statement ends in one way. -/
theorem unique (ends : statement.EndsIn machine outcome)
    (likewise : statement.EndsIn machine last) : outcome = last := by
  obtain ⟨bound, here⟩ := ends.exists_bound
  obtain ⟨limit, there⟩ := likewise.exists_bound
  rw [← here (max bound limit) (Nat.le_max_left ..), there _ (Nat.le_max_right ..)]

end Statement.EndsIn

namespace Evaluation

open Scriptlet.Action

variable {condition : Action Bool} {first other body behind next : Action Flow} {bound : Nat}

/-- One action and another one behind it, unless the first one returned, end as the two do. -/
theorem endsAs_unlessReturned (begins : first.EndsAs other) (goesOn : behind.EndsAs next) :
    (first.unlessReturned behind).EndsAs (other.unlessReturned next) := by
  refine endsAs_bind begins fun flow => ?_
  cases flow with
  | returned value => exact endsAs_self _
  | normal => exact goesOn

/-! ## Rounds -/

/-- A loop tests its condition and then, where that holds, executes its body and goes on. -/
theorem whileLoop_succ : whileLoop (bound + 1) condition body = (do
    if ← condition then body.unlessReturned (whileLoop bound condition body)
    else return .normal) := by
  rw [whileLoop, repeatUntil_succ, bind_assoc]
  congr 1
  funext holds
  cases holds with
  | false => rfl
  | true =>
      simp only [if_true, unlessReturned, bind_assoc]
      congr 1
      funext flow
      cases flow <;> rfl

/-- A loop that is tested at its end executes its body first, and then goes on if its condition
holds. -/
theorem doWhileLoop_succ : doWhileLoop (bound + 1) condition body = body.unlessReturned (do
    if ← condition then doWhileLoop bound condition body
    else return .normal) := by
  rw [doWhileLoop, repeatUntil_succ, bind_assoc, unlessReturned]
  congr 1
  funext flow
  cases flow with
  | returned value => rfl
  | normal =>
      simp only [bind_assoc]
      congr 1
      funext holds
      cases holds <;> rfl

/-- Rounds that check last, as the body and rounds that check first. -/
theorem endsAs_whileLoop_behind (bound : Nat) (condition : Action Bool) (body : Action Flow) :
    (doWhileLoop bound condition body).EndsAs
      (body.unlessReturned (whileLoop bound condition body)) := by
  induction bound with
  | zero => exact endsAs_exhausted _
  | succ bound ih =>
      rw [doWhileLoop_succ, whileLoop_succ]
      refine endsAs_unlessReturned (endsAs_self _) (endsAs_bind (endsAs_self _) fun holds => ?_)
      cases holds with
      | false => exact endsAs_self _
      | true => exact ih

/-- The body and rounds that check first, as rounds that check last, which are one more where the
body does not return. -/
theorem endsAs_doWhileLoop_succ (bound : Nat) (condition : Action Bool) (body : Action Flow) :
    (body.unlessReturned (whileLoop bound condition body)).EndsAs
      (doWhileLoop (bound + 1) condition body) := by
  induction bound with
  | zero =>
      rw [doWhileLoop_succ]
      exact endsAs_unlessReturned (endsAs_self _) (endsAs_exhausted _)
  | succ bound ih =>
      rw [doWhileLoop_succ, whileLoop_succ]
      refine endsAs_unlessReturned (endsAs_self _) (endsAs_bind (endsAs_self _) fun holds => ?_)
      cases holds with
      | false => exact endsAs_self _
      | true => exact ih

end Evaluation

/-! ## Statements -/

namespace Outcome.FollowedBy

variable {first outcome : Outcome Flow} {behind next : Machine → Outcome Flow → Prop}

/-- What comes behind a statement may be weakened. -/
theorem imp (follows : first.FollowedBy behind outcome)
    (leads : ∀ after, behind after outcome → next after outcome) :
    first.FollowedBy next outcome := by
  rcases first with ⟨_ | value, after⟩ | ⟨error, after⟩ | _
  · exact leads after follows
  all_goals exact follows

/-- Where nothing has ended, nothing ends behind. -/
theorem ne_unfinished (follows : first.FollowedBy behind outcome)
    (finished : outcome ≠ .unfinished) : first ≠ .unfinished := by
  rintro rfl
  exact finished follows

/-- A statement and what comes behind it end if both do. -/
theorem finished (follows : first.FollowedBy behind outcome) (ended : first ≠ .unfinished)
    (ends : ∀ after, behind after outcome → outcome ≠ .unfinished) : outcome ≠ .unfinished := by
  rcases first with ⟨_ | value, after⟩ | ⟨error, after⟩ | _
  · exact ends after follows
  all_goals
    cases follows
    exact ended

/-- What ends behind a statement does so under every bound that is great enough. -/
theorem exists_bound {statement : Statement} (follows : first.FollowedBy statement.EndsIn outcome) :
    ∃ bound, ∀ larger ≥ bound,
      first.FollowedBy (fun after outcome => execute larger statement after = outcome) outcome := by
  rcases first with ⟨_ | value, after⟩ | ⟨error, after⟩ | _
  · exact Statement.EndsIn.exists_bound follows
  all_goals exact ⟨0, fun _ _ => follows⟩

end Outcome.FollowedBy

/-- One action and another one behind it, unless the first one returned, end in what comes behind
the first one. -/
theorem Action.unlessReturned_eq_iff {first behind : Action Flow} {machine : Machine}
    {outcome : Outcome Flow} :
    first.unlessReturned behind machine = outcome ↔
      (first machine).FollowedBy (fun after outcome => behind after = outcome) outcome := by
  rw [unlessReturned, bind_apply]
  rcases first machine with ⟨_ | value, after⟩ | ⟨error, after⟩ | _
  · rfl
  all_goals exact eq_comm

namespace Statement

open Evaluation

variable {line other bound : Nat} {body : Statement} {condition : Expr}

/-- A loop is executed in rounds of its condition and its body. -/
theorem execute_whileLoop : execute (bound + 1) (whileLoop line condition body) =
    Evaluation.whileLoop bound (Value.truthy <$> evaluate bound condition)
      (execute bound body) := by
  rw [execute, executeNode]

theorem execute_doWhileLoop : execute (bound + 1) (doWhileLoop line body condition) =
    Evaluation.doWhileLoop bound (Value.truthy <$> evaluate bound condition)
      (execute bound body) := by
  rw [execute, executeNode]

/-- **A loop that checks its condition last is its body, and behind it a loop that checks its
condition first**: it ends where these do, and in the same way. -/
theorem doWhileLoop_endsIn_iff (line other : Nat) (body : Statement) (condition : Expr)
    (machine : Machine) (outcome : Outcome Flow) :
    (doWhileLoop line body condition).EndsIn machine outcome ↔
      ∃ first, body.EndsIn machine first ∧
        first.FollowedBy (whileLoop other condition body).EndsIn outcome := by
  constructor
  · rintro ⟨finished, _ | bound, ended⟩
    · rw [execute] at ended
      exact absurd ended.symm finished
    · rw [execute_doWhileLoop] at ended
      have parts := (endsAs_whileLoop_behind bound (Value.truthy <$> evaluate bound condition)
        (execute bound body) machine).eq (ended ▸ finished)
      rw [ended, ← @execute_whileLoop _ other, Action.unlessReturned_eq_iff] at parts
      exact ⟨_, ⟨parts.ne_unfinished finished, bound, rfl⟩,
        parts.imp fun after last => ⟨finished, bound + 1, last⟩⟩
  · rintro ⟨first, begins, follows⟩
    obtain ⟨bound, here⟩ := begins.exists_bound
    obtain ⟨limit, there⟩ := follows.exists_bound
    have finished := follows.finished begins.1 fun _ last => last.1
    -- Under a bound that is great enough for both parts, the rounds end as the parts do.
    let enough := max bound limit
    have parts : (execute enough body).unlessReturned
        (execute (enough + 1) (whileLoop other condition body)) machine = outcome := by
      rw [Action.unlessReturned_eq_iff, here enough (Nat.le_max_left ..)]
      exact there (enough + 1) (Nat.le_succ_of_le (Nat.le_max_right ..))
    rw [execute_whileLoop] at parts
    have rounds := (endsAs_doWhileLoop_succ enough _ _ machine).eq (parts ▸ finished)
    obtain ⟨values, flows⟩ := endsAs_evaluate_execute (Nat.le_succ enough)
    have grown := (endsAs_doWhileLoop (Nat.le_refl (enough + 1))
      (Action.endsAs_map (values condition)) (flows body) machine).eq
      (rounds.trans parts ▸ finished)
    refine ⟨finished, enough + 2, ?_⟩
    rw [execute_doWhileLoop, grown, rounds, parts]

end Statement

end Scriptlet
