import Mathlib.Data.List.Forall2
import Scriptlet.Proofs.Machine.Simulation
import Scriptlet.Proofs.Value.Plain
import Scriptlet.Proofs.Value.Resemblance

/-!
# Comparing two runs

Two runs are compared in stages. At each stage some machines correspond and some values do, and a
value that does at one stage does at all that follow. Two actions match if from machines that
correspond they end in the same way at a stage that follows; what is made of matching actions in the
same way matches too. A run compared with itself, at the machines that it comes to, is what one run
keeps.
-/

namespace Scriptlet

variable [Host]

variable {α β γ δ σ Stage Phase : Type}

/-- How two runs are compared: which stages follow a stage, and which machines and which values
correspond at it. Values that correspond are the same but for the scopes that they keep, and what is
no function corresponds to itself. -/
structure Comparison (Stage : Type) where
  leads : Stage → Stage → Prop
  machines : Stage → Machine → Machine → Prop
  values : Stage → Value → Value → Prop
  leads_refl (stage : Stage) : leads stage stage
  leads_trans {stage later last : Stage} : leads stage later → leads later last → leads stage last
  values_later {stage later : Stage} {value other : Value} :
    leads stage later → values stage value other → values later value other
  resembles {stage : Stage} {value other : Value} : values stage value other → value.Resembles other
  plain (stage : Stage) {value : Value} : value.isPlain = true → values stage value value

/-- Two outcomes match: the actions ended in the same way, at a stage that follows, with machines
that correspond there and results as `results` says. -/
inductive Outcome.Matches (comparison : Comparison Stage) (stage : Stage)
    (results : Stage → α → β → Prop) : Outcome α → Outcome β → Prop
  | done {later : Stage} {value : α} {other : β} {after final : Machine} :
      comparison.leads stage later → comparison.machines later after final →
      results later value other →
      Outcome.Matches comparison stage results (.done value after) (.done other final)
  | failed {later : Stage} {error : RuntimeError} {after final : Machine} :
      comparison.leads stage later → comparison.machines later after final →
      Outcome.Matches comparison stage results (.failed error after) (.failed error final)
  | unfinished : Outcome.Matches comparison stage results .unfinished .unfinished

/-- Two actions match at a stage. -/
def Action.Matches (comparison : Comparison Stage) (stage : Stage)
    (results : Stage → α → β → Prop) (action : Action α) (other : Action β) : Prop :=
  ∀ ⦃machine final : Machine⦄, comparison.machines stage machine final →
    (action machine).Matches comparison stage results (other final)

variable {comparison : Comparison Stage} {stage later : Stage} {results : Stage → α → β → Prop}
  {answers : Stage → γ → δ → Prop} {action : Action α} {other : Action β}

namespace Comparison

/-- Two machines correspond at some stage that follows. -/
def GoesTo (comparison : Comparison Stage) (stage : Stage) (machine final : Machine) : Prop :=
  ∃ later, comparison.leads stage later ∧ comparison.machines later machine final

/-- Two machines begin with something, in a comparison of its own, that they leave by `leave` and
`exit` for a stage that follows on the present one. What corresponds within goes on to correspond
outside. -/
def Enters (inner : Comparison Phase) (outer : Comparison Stage) (stage : Stage)
    (entered begun : Machine) (leave exit : Machine → Machine) : Prop :=
  ∃ first, inner.machines first entered begun ∧
    ∀ ⦃last after final⦄, inner.leads first last → inner.machines last after final →
      ∃ later, outer.leads stage later ∧ outer.machines later (leave after) (exit final) ∧
        ∀ ⦃value other⦄, inner.values last value other → outer.values later value other

end Comparison

namespace Outcome.Matches

/-- What matches from a later stage on matches from an earlier one on. -/
theorem sooner {outcome : Outcome α} {answer : Outcome β}
    (agree : outcome.Matches comparison later results answer)
    (leads : comparison.leads stage later) : outcome.Matches comparison stage results answer := by
  cases agree with
  | done more same holds => exact .done (comparison.leads_trans leads more) same holds
  | failed more same => exact .failed (comparison.leads_trans leads more) same
  | unfinished => exact .unfinished

/-- Outcomes that match are alike in a correspondence that asks for no more. -/
theorem alike {like : Correspondence} {same : α → β → Prop} {outcome : Outcome α}
    {answer : Outcome β} (agree : outcome.Matches comparison stage results answer)
    (machines : ∀ ⦃later after final⦄, comparison.machines later after final →
      like.machines after final)
    (errors : ∀ error, like.errors error error)
    (holds : ∀ ⦃later value other⦄, results later value other → same value other) :
    outcome.Alike like same answer := by
  cases agree with
  | done _ corresponds given => exact .done (holds given) (machines corresponds)
  | failed _ corresponds => exact .failed (errors _) (machines corresponds)
  | unfinished => exact .unfinished

end Outcome.Matches

namespace Action

/-- An action whose bound is used up matches itself. -/
theorem matches_exhausted : (exhausted : Action α).Matches comparison stage results exhausted :=
  fun _ _ _ => .unfinished

/-- Results that correspond match without a step. -/
theorem matches_pure {value : α} {result : β} (holds : results stage value result) :
    (pure value : Action α).Matches comparison stage results (pure result) :=
  fun _ _ same => .done (comparison.leads_refl stage) same holds

/-- The same failure matches. -/
theorem matches_fail {line : Nat} {fault : Fault} :
    (fail line fault : Action α).Matches comparison stage results (fail line fault) :=
  fun _ _ same => .failed (comparison.leads_refl stage) same

/-- What is seen of machines that correspond matches if it corresponds at this stage. -/
theorem matches_inspect {view : Machine → α} {glance : Machine → β}
    (holds : ∀ ⦃machine final⦄, comparison.machines stage machine final →
      results stage (view machine) (glance final)) :
    (inspect view).Matches comparison stage results (inspect glance) :=
  fun _ _ same => .done (comparison.leads_refl stage) same (holds same)

/-- What does not depend on the machine, and is no function. -/
theorem matches_ofExcept {line : Nat} {outcome : Except Fault Value}
    (plain : ∀ value, outcome = .ok value → value.isPlain = true) :
    (ofExcept line outcome).Matches comparison stage comparison.values (ofExcept line outcome) := by
  cases outcome with
  | error fault => exact matches_fail
  | ok value => exact matches_pure (comparison.plain stage (plain value rfl))

/-- One action after another one: the second ones have to match at each stage that follows, for
results that correspond there. -/
theorem matches_bind {next : α → Action γ} {follow : β → Action δ}
    (first : action.Matches comparison stage results other)
    (second : ∀ ⦃later value result⦄, comparison.leads stage later → results later value result →
      (next value).Matches comparison later answers (follow result)) :
    (action >>= next).Matches comparison stage answers (other >>= follow) := by
  intro machine final same
  have answer := first same
  rw [bind_apply, bind_apply]
  generalize action machine = ended, other final = last at answer ⊢
  cases answer with
  | done leads after holds => exact (second leads holds after).sooner leads
  | failed leads after => exact .failed leads after
  | unfinished => exact .unfinished

/-- What is made of results that match matches if it corresponds. -/
theorem matches_map {view : α → γ} {glance : β → δ} {machine final : Machine}
    (agree : (action machine).Matches comparison stage results (other final))
    (holds : ∀ ⦃later value result⦄, results later value result →
      answers later (view value) (glance result)) :
    ((view <$> action) machine).Matches comparison stage answers ((glance <$> other) final) := by
  rw [← bind_pure_comp, ← bind_pure_comp, bind_apply, bind_apply]
  generalize action machine = ended, other final = last at agree ⊢
  cases agree with
  | done leads after result => exact .done leads after (holds result)
  | failed leads after => exact .failed leads after
  | unfinished => exact .unfinished

/-- What was entered is left again in the same way, and with the same result. -/
theorem matches_ending {inner : Comparison Phase} {phase : Phase} {leave exit : Machine → Machine}
    {machine final : Machine} {within : Phase → α → β → Prop}
    (agree : (action machine).Matches inner phase within (other final))
    (leaves : ∀ ⦃last after behind⦄, inner.leads phase last → inner.machines last after behind →
      ∃ later, comparison.leads stage later ∧
        comparison.machines later (leave after) (exit behind) ∧
        ∀ ⦃value result⦄, within last value result → results later value result) :
    (action.ending leave machine).Matches comparison stage results (other.ending exit final) := by
  unfold ending
  generalize action machine = ended, other final = answer at agree ⊢
  cases agree with
  | unfinished => exact .unfinished
  | failed leads same =>
      obtain ⟨later, follows, corresponds, -⟩ := leaves leads same
      exact .failed follows corresponds
  | done leads same holds =>
      obtain ⟨later, follows, corresponds, keeps⟩ := leaves leads same
      exact .done follows corresponds (keeps holds)

/-- A search matches if the search in each item does, at every stage. -/
theorem matches_findFirst {search quest : σ → Action (Option α)} {found : Stage → α → α → Prop}
    (each : ∀ stage item, (search item).Matches comparison stage
      (fun later => Option.Rel (found later)) (quest item)) (stage : Stage) (items : List σ) :
    (findFirst search items).Matches comparison stage (fun later => Option.Rel (found later))
      (findFirst quest items) := by
  induction items generalizing stage with
  | nil => exact matches_pure .none
  | cons item rest ih =>
      rw [findFirst_cons, findFirst_cons]
      refine matches_bind (each stage item) fun later _ _ _ holds => ?_
      cases holds with
      | some holds => exact matches_pure (.some holds)
      | none => exact ih later

/-- A loop matches if its body does, at every stage. -/
theorem matches_repeatUntil {body round : Action (Option α)} {found : Stage → α → α → Prop}
    (each : ∀ stage, body.Matches comparison stage (fun later => Option.Rel (found later)) round)
    (stage : Stage) (bound : Nat) :
    (repeatUntil body bound).Matches comparison stage found (repeatUntil round bound) := by
  induction bound generalizing stage with
  | zero => exact fun _ _ _ => .unfinished
  | succ bound ih =>
      rw [repeatUntil_succ, repeatUntil_succ]
      refine matches_bind (each stage) fun later _ _ _ holds => ?_
      cases holds with
      | some holds => exact matches_pure holds
      | none => exact ih later

/-- The values of a list of items match one by one, at the stage to which all of them lead. -/
theorem matches_collect {each every : σ → Action Value}
    (agree : ∀ stage item, (each item).Matches comparison stage comparison.values (every item))
    (stage : Stage) (items : List σ) :
    (collect each items).Matches comparison stage
      (fun later => List.Forall₂ (comparison.values later)) (collect every items) := by
  induction items generalizing stage with
  | nil => exact matches_pure .nil
  | cons item rest ih =>
      refine matches_bind (agree stage item) fun later value other _ same => ?_
      refine matches_bind (ih later) fun last values others leads all => matches_pure ?_
      exact .cons (comparison.values_later leads same) all

end Action

end Scriptlet
