import Scriptlet.Proofs.Machine.Rest

/-!
# Runs side by side

Two runs that differ in their settings and in what became of the output go side by side as long as
they do the same. The first may drop out with an error while the second goes on alone; from there on
it is only kept in view what holds between the stream that the first run left and that of the second
one. What is made of actions that go side by side in this way goes so as well.
-/

namespace Scriptlet

variable {α β σ : Type}

/-! ## Other settings and another stream -/

variable [Host]

/-- The machine with other settings and another stream. -/
def Machine.refit (machine : Machine) (settings : Settings) (output : Output) : Machine :=
  { machine with settings, output }

/-- A change of machines that neither looks at the settings and the stream nor changes them. -/
def Machine.Blind (change : Machine → Machine) : Prop :=
  ∀ machine settings output,
    change (machine.refit settings output) = (change machine).refit settings output

/-- An outcome with the machine changed that it leaves. -/
def Outcome.mapMachine (change : Machine → Machine) : Outcome α → Outcome α
  | .done value after => .done value (change after)
  | .failed error after => .failed error (change after)
  | .unfinished => .unfinished

/-- What is seen of an action that ended: the error, if it failed, and the bytes written by then. -/
def Outcome.transcript? : Outcome α → Option (Option RuntimeError × List UInt8)
  | .done _ after => some (none, after.output.bytes)
  | .failed error after => some (some error, after.output.bytes)
  | .unfinished => none

/-- An action that neither looks at the settings and the stream nor changes them. -/
def Action.Blind (action : Action α) : Prop :=
  ∀ (machine : Machine) (settings : Settings) (output : Output),
    action (machine.refit settings output) =
      (action machine).mapMachine fun after => after.refit settings output

/-- What holds of the stream before an action holds of it behind. -/
def Action.Maintains (property : Output → Prop) (action : Action α) : Prop :=
  ∀ ⦃machine : Machine⦄, property machine.output →
    (action machine).Leaves fun after => property after.output

namespace Machine

/-- A machine with its own settings and its own stream is itself. -/
theorem refit_self (machine : Machine) : machine.refit machine.settings machine.output = machine :=
  rfl

/-- A blind change keeps the settings and the stream. -/
theorem Blind.keeps {change : Machine → Machine} (blind : Blind change) (machine : Machine) :
    (change machine).settings = machine.settings ∧ (change machine).output = machine.output := by
  have same := blind machine machine.settings machine.output
  rw [refit_self] at same
  constructor
  · rw [same]
    rfl
  · rw [same]
    rfl

end Machine

namespace Outcome

/-- A transcript without an error is that of an action that ended with these bytes written. -/
theorem transcript?_eq_done_iff {outcome : Outcome Unit} {bytes : List UInt8} :
    outcome.transcript? = some (none, bytes) ↔
      ∃ after, outcome = .done () after ∧ after.output.bytes = bytes := by
  cases outcome <;> simp [transcript?]

/-- A transcript with an error is that of an action that failed with it, with these bytes written by
then. -/
theorem transcript?_eq_failed_iff {outcome : Outcome α} {error : RuntimeError}
    {bytes : List UInt8} :
    outcome.transcript? = some (some error, bytes) ↔
      ∃ after, outcome = .failed error after ∧ after.output.bytes = bytes := by
  cases outcome <;> simp [transcript?]

end Outcome

/-- An outcome with its machine changed leaves what is asked where the machine before is so once it
is changed. -/
theorem Outcome.leaves_mapMachine {property : Machine → Prop} {change : Machine → Machine}
    {outcome : Outcome α} :
    (outcome.mapMachine change).Leaves property ↔
      outcome.Leaves fun after => property (change after) := by
  cases outcome <;> rfl

/-- A blind action may be given its own settings and its own stream anew. -/
theorem Action.Blind.keeps {action : Action α} (blind : action.Blind) (machine : Machine) :
    (action machine).Leaves fun after =>
      after.settings = machine.settings ∧ after.output = machine.output := by
  have same := blind machine machine.settings machine.output
  rw [Machine.refit_self] at same
  rw [same, Outcome.leaves_mapMachine]
  cases action machine with
  | unfinished => trivial
  | done value after => exact ⟨rfl, rfl⟩
  | failed error after => exact ⟨rfl, rfl⟩

/-! ## Two runs -/

/-- How two runs go side by side: which settings and streams of the one stand beside which of the
other, which faults stop both, and what holds between the error with which the first one dropped out
alone, the stream that it left, and the stream of the second one from there on. -/
structure Tandem where
  together : Settings → Output → Settings → Output → Prop
  shares : Fault → Prop
  alone : RuntimeError → Output → Output → Prop

/-- Two actions ended side by side: in the same way, with machines that differ only in settings and
stream, or the first one by itself. -/
inductive Outcome.InTandem (tandem : Tandem) : Outcome α → Outcome α → Prop
  | done {value : α} {after : Machine} {settings : Settings} {output : Output} :
      tandem.together after.settings after.output settings output →
      Outcome.InTandem tandem (.done value after) (.done value (after.refit settings output))
  | failed {error : RuntimeError} {after : Machine} {settings : Settings} {output : Output} :
      tandem.shares error.fault → tandem.together after.settings after.output settings output →
      Outcome.InTandem tandem (.failed error after) (.failed error (after.refit settings output))
  | unfinished : Outcome.InTandem tandem .unfinished .unfinished
  | alone {error : RuntimeError} {after : Machine} {last : Outcome α} :
      (∃ stream, tandem.alone error after.output stream) →
      (last.Leaves fun final => tandem.alone error after.output final.output) →
      Outcome.InTandem tandem (.failed error after) last

/-- Two actions go side by side, and the second one goes on as it should where the first run has
dropped out before. -/
structure Action.InTandem (tandem : Tandem) (action other : Action α) : Prop where
  together (machine : Machine) {settings : Settings} {output : Output} :
    tandem.together machine.settings machine.output settings output →
    (action machine).InTandem tandem (other (machine.refit settings output))
  alone (error : RuntimeError) (stopped : Output) : other.Maintains (tandem.alone error stopped)

namespace Action

/-! ## What holds of the stream -/

variable {property : Output → Prop} {action : Action α} {finish : Machine → Machine}

/-- A blind action maintains whatever holds of the stream. -/
theorem Blind.maintains (blind : action.Blind) : action.Maintains property := by
  intro machine holds
  apply (blind.keeps machine).imp
  intro after same
  rwa [same.2]

theorem maintains_pure {value : α} : (pure value : Action α).Maintains property :=
  fun _ holds => holds

theorem maintains_bind {next : α → Action β} (first : action.Maintains property)
    (second : ∀ value, (next value).Maintains property) : (action >>= next).Maintains property := by
  intro machine holds
  have kept := first holds
  rw [bind_apply]
  cases ended : action machine with
  | unfinished => trivial
  | failed error after =>
      rw [ended] at kept
      exact kept
  | done value after =>
      rw [ended] at kept
      exact second value kept

theorem maintains_ending (blind : Machine.Blind finish) (first : action.Maintains property) :
    (action.ending finish).Maintains property := by
  intro machine holds
  apply leaves_ending (first holds)
  intro after kept
  rwa [(blind.keeps after).2]

/-! ## Actions side by side -/

variable {tandem : Tandem} {other : Action α} {line : Nat} {fault : Fault}

/-- Actions whose bounds are used up go side by side. -/
theorem inTandem_exhausted : (exhausted : Action α).InTandem tandem exhausted where
  together _ _ _ _ := .unfinished
  alone _ _ _ _ := trivial

/-- The same value is given side by side. -/
theorem inTandem_pure {value : α} : (pure value : Action α).InTandem tandem (pure value) where
  together _ _ _ beside := .done beside
  alone _ _ := maintains_pure

/-- A fault that both runs share stops both. -/
theorem inTandem_fail (shared : tandem.shares fault) :
    (fail line fault : Action α).InTandem tandem (fail line fault) where
  together _ _ _ beside := .failed shared beside
  alone _ _ _ holds := holds

/-- A value, or a fault that both runs share, comes side by side. -/
theorem inTandem_ofExcept {result : Except Fault α}
    (shared : ∀ fault, result = .error fault → tandem.shares fault) :
    (ofExcept line result).InTandem tandem (ofExcept line result) := by
  cases result with
  | ok value => exact inTandem_pure
  | error fault => exact inTandem_fail (shared fault rfl)

/-- What neither looks at the settings and the stream nor changes them does the same in both
runs. -/
theorem Blind.inTandem (blind : action.Blind)
    (shared : ∀ machine error after, action machine = .failed error after →
      tandem.shares error.fault) : action.InTandem tandem action where
  together := by
    intro machine settings output beside
    have kept := blind.keeps machine
    rw [blind machine settings output]
    cases ended : action machine with
    | unfinished => exact .unfinished
    | done value after =>
        rw [ended] at kept
        rw [← kept.1, ← kept.2] at beside
        exact .done beside
    | failed error after =>
        rw [ended] at kept
        rw [← kept.1, ← kept.2] at beside
        exact .failed (shared machine error after ended) beside
  alone _ _ := blind.maintains

/-- One action after another one goes side by side if both parts do. Where the first run drops out
in the first part, the second one goes on through the second part. -/
theorem inTandem_bind {next follow : α → Action β} (first : action.InTandem tandem other)
    (second : ∀ value, (next value).InTandem tandem (follow value)) :
    (action >>= next).InTandem tandem (other >>= follow) where
  together := by
    intro machine settings output beside
    have answer := first.together machine beside
    rw [bind_apply, bind_apply]
    generalize action machine = ended, other (machine.refit settings output) = last at answer ⊢
    cases answer with
    | done beside => exact (second _).together _ beside
    | failed shared beside => exact .failed shared beside
    | unfinished => exact .unfinished
    | @alone error after last dropped kept =>
        -- What follows is up to the second run.
        apply Outcome.InTandem.alone dropped
        cases last with
        | unfinished => trivial
        | failed => exact kept
        | done value final => exact (second value).alone error after.output kept
  alone error stopped := maintains_bind (first.alone error stopped) fun value =>
    (second value).alone error stopped

/-- What is made of the same values goes side by side. -/
theorem inTandem_map {view : α → β} (first : action.InTandem tandem other) :
    (view <$> action).InTandem tandem (view <$> other) := by
  rw [← bind_pure_comp, ← bind_pure_comp]
  exact inTandem_bind first fun _ => inTandem_pure

/-- A blind change behind both actions keeps them side by side. -/
theorem inTandem_ending (blind : Machine.Blind finish) (first : action.InTandem tandem other) :
    (action.ending finish).InTandem tandem (other.ending finish) where
  together := by
    intro machine settings output beside
    have answer := first.together machine beside
    unfold ending
    generalize action machine = ended, other (machine.refit settings output) = last at answer ⊢
    cases answer with
    | @done value after _ _ beside =>
        rw [← (blind.keeps after).1, ← (blind.keeps after).2] at beside
        dsimp only
        rw [blind]
        exact .done beside
    | @failed error after _ _ shared beside =>
        rw [← (blind.keeps after).1, ← (blind.keeps after).2] at beside
        dsimp only
        rw [blind]
        exact .failed shared beside
    | unfinished => exact .unfinished
    | @alone error after last dropped kept =>
        rw [← (blind.keeps after).2] at dropped kept
        apply Outcome.InTandem.alone dropped
        cases last with
        | unfinished => trivial
        | done value final =>
            change tandem.alone error (finish after).output (finish final).output
            rwa [(blind.keeps final).2]
        | failed reason final =>
            change tandem.alone error (finish after).output (finish final).output
            rwa [(blind.keeps final).2]
  alone error stopped := maintains_ending blind (first.alone error stopped)

/-- A search goes side by side if the search in each item does. -/
theorem inTandem_findFirst {search quest : σ → Action (Option α)}
    (each : ∀ item, (search item).InTandem tandem (quest item)) (items : List σ) :
    (findFirst search items).InTandem tandem (findFirst quest items) := by
  induction items with
  | nil => exact inTandem_pure
  | cons item rest ih =>
      rw [findFirst_cons, findFirst_cons]
      refine inTandem_bind (each item) fun found => ?_
      cases found with
      | some value => exact inTandem_pure
      | none => exact ih

/-- A loop goes side by side if its body does. -/
theorem inTandem_repeatUntil {body round : Action (Option α)} (each : body.InTandem tandem round)
    (bound : Nat) : (repeatUntil body bound).InTandem tandem (repeatUntil round bound) := by
  induction bound with
  | zero => exact inTandem_exhausted
  | succ bound ih =>
      rw [repeatUntil_succ, repeatUntil_succ]
      refine inTandem_bind each fun found => ?_
      cases found with
      | some value => exact inTandem_pure
      | none => exact ih

/-- The values of a list of items come side by side. -/
theorem inTandem_collect {each every : σ → Action α}
    (agree : ∀ item, (each item).InTandem tandem (every item)) (items : List σ) :
    (collect each items).InTandem tandem (collect every items) := by
  induction items with
  | nil => exact inTandem_pure
  | cons item rest ih =>
      refine inTandem_bind (agree item) fun value => ?_
      exact inTandem_bind ih fun values => inTandem_pure

end Action

end Scriptlet
