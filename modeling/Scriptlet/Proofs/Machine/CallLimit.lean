import Scriptlet.Proofs.Machine.Bound
import Scriptlet.Proofs.Machine.TandemEvaluation

/-!
# A higher limit on calls

A run that stays within the limit on calls is the same under every higher limit. A run that goes
beyond it goes on under a higher limit, and what it has written by then stays in front.
-/

namespace Scriptlet

section

variable [Host]

/-- The machine with a limit on calls of its own. -/
def Machine.limitedTo (limit : Nat) (machine : Machine) : Machine :=
  { machine with settings := { machine.settings with callLimit := limit } }

namespace Tandem

/-- The same run under two limits: it drops out under the first one where that is reached. -/
def limits (limit higher : Nat) : Tandem where
  together settings output other stream :=
    settings.callLimit = limit ∧ other = { settings with callLimit := higher } ∧ stream = output
  shares fault := ∀ reached, fault ≠ .callsTooDeep reached
  alone error output stream :=
    error.fault = .callsTooDeep limit ∧ output.writes <:+ stream.writes

variable {limit higher : Nat}

omit [Host] in
/-- Both runs write the same lines, and go on to do so. -/
theorem writes_limits : (limits limit higher).Writes where
  shares _ _ same := by cases same
  echoes := by
    intro settings other output stream beside
    obtain ⟨-, rfl, -⟩ := beside
    rfl
  beside := by
    intro settings other output stream bytes beside
    obtain ⟨reached, rfl, rfl⟩ := beside
    exact .inl ⟨⟨reached, rfl, rfl⟩, rfl⟩
  alone := by
    intro error stopped stream bytes dropped
    obtain ⟨deep, kept⟩ := dropped
    exact ⟨deep, kept.trans (stream.writes_suffix_write bytes)⟩

/-- Every step of a run is the same under both limits, but for the call that reaches the lower
one. -/
theorem sound_limits (within : limit ≤ higher) :
    (limits limit higher).Sound .standard .standard where
  shares other := other
  reports := Reporter.inTandem_standard writes_limits
  limit := by
    intro settings other output stream beside
    obtain ⟨rfl, rfl, rfl⟩ := beside
    exact .inr ⟨within, fun _ => ⟨rfl, List.suffix_refl _⟩⟩

end Tandem

namespace Outcome

variable {α : Type} {limit higher : Nat} {ended last : Outcome α}

/-- Where the first run has not gone beyond its limit, the second one ended as it did. -/
theorem eq_of_inTandem_limits (goes : ended.InTandem (.limits limit higher) last)
    (fits : ∀ line reached after, ended ≠ .failed ⟨line, .callsTooDeep reached⟩ after) :
    last = ended.mapMachine (Machine.limitedTo higher) := by
  cases goes with
  | unfinished => rfl
  | done beside =>
      obtain ⟨-, rfl, rfl⟩ := beside
      rfl
  | failed shared beside =>
      obtain ⟨-, rfl, rfl⟩ := beside
      rfl
  | @alone error after last dropped _ =>
      obtain ⟨stream, deep, -⟩ := dropped
      obtain ⟨line, fault⟩ := error
      cases deep
      exact absurd rfl (fits line limit after)

/-- Where the first run has gone beyond its limit, the second one had written the same by then. -/
theorem ahead_of_inTandem_limits {line reached : Nat} {after : Machine}
    (goes : Outcome.InTandem (.limits limit higher) (.failed ⟨line, .callsTooDeep reached⟩ after)
      last) :
    reached = limit ∧ last.Leaves fun final => after.output.bytes <+: final.output.bytes := by
  cases goes with
  | failed shared beside => exact absurd rfl (shared reached)
  | alone dropped kept =>
      obtain ⟨stream, same, -⟩ := dropped
      cases same
      exact ⟨rfl, kept.imp fun final ahead => Output.bytes_prefix_of_suffix ahead.2⟩

end Outcome

namespace Machine

/-- A program goes side by side with itself under a higher limit. -/
theorem inTandem_limitedTo {limit higher : Nat} (within : limit ≤ higher) (bound : Nat)
    (statements : List Statement) (machine : Machine) :
    (interpret bound statements (machine.limitedTo limit)).InTandem (.limits limit higher)
      (interpret bound statements (machine.limitedTo higher)) := by
  have beside : (Tandem.limits limit higher).together (machine.limitedTo limit).settings
      (machine.limitedTo limit).output (machine.limitedTo higher).settings machine.output :=
    ⟨rfl, rfl, rfl⟩
  have flushes {settings other : Settings} {output stream : Output}
      (beside : (Tandem.limits limit higher).together settings output other stream) :
      stream.flush = output.flush := by
    obtain ⟨-, -, rfl⟩ := beside
    rfl
  have answer := inTandem_interpret (Tandem.sound_limits within) flushes bound statements beside
  rw [interpretReporting_standard] at answer
  exact answer

/-- **The limit on calls**: a run that does not go beyond the limit is the same under a higher one.
One that does names the limit, and whatever it has written by then stands in front of all that the
run writes under the higher one. Both runs begin in one state of the host, whatever the host is. -/
theorem interpret_limitedTo (bound : Nat) (statements : List Statement) (machine : Machine)
    (limit higher : Nat) (within : limit ≤ higher) :
    ((∀ line reached after, interpret bound statements (machine.limitedTo limit) ≠
        .failed ⟨line, .callsTooDeep reached⟩ after) →
      interpret bound statements (machine.limitedTo higher) =
        (interpret bound statements (machine.limitedTo limit)).mapMachine (limitedTo higher)) ∧
    ∀ line reached after, interpret bound statements (machine.limitedTo limit) =
        .failed ⟨line, .callsTooDeep reached⟩ after →
      reached = limit ∧
        ∀ larger, (interpret larger statements (machine.limitedTo higher)).Leaves fun final =>
          after.output.bytes <+: final.output.bytes := by
  constructor
  · intro fits
    exact Outcome.eq_of_inTandem_limits (inTandem_limitedTo within bound statements machine) fits
  · intro line reached after deep
    have beyond (more : Nat) (enough : bound ≤ more) : reached = limit ∧
        (interpret more statements (machine.limitedTo higher)).Leaves fun final =>
          after.output.bytes <+: final.output.bytes := by
      have answer := inTandem_limitedTo within more statements machine
      have first := endsAs_interpret enough statements (machine.limitedTo limit)
      rw [deep] at first
      generalize interpret more statements (machine.limitedTo limit) = ended at answer first
      cases first
      exact Outcome.ahead_of_inTandem_limits answer
    refine ⟨(beyond bound (Nat.le_refl bound)).1, fun larger => ?_⟩
    -- Under a smaller bound than that of the first run, the second one may not end.
    have answer := (beyond (bound + larger) (Nat.le_add_right bound larger)).2
    have second := endsAs_interpret (Nat.le_add_left larger bound) statements
      (machine.limitedTo higher)
    generalize interpret (bound + larger) statements (machine.limitedTo higher) = last,
      interpret larger statements (machine.limitedTo higher) = early at answer second ⊢
    cases second with
    | unfinished => trivial
    | same => exact answer

end Machine

end

namespace Machine

/-- A call that writes something, and whose body calls what writes something as well. -/
def nestedCalls : List Statement :=
  [.function 1 "g" [] [.print 1 (.literal 1 (.text "deep"))],
    .function 2 "f" [] [.print 2 (.literal 2 (.text "in")),
      .expression 3 (.call 3 (.reference 3 "g") [])],
    .expression 4 (.call 4 (.reference 4 "f") [])]

/-- The theorem at a call of a call: it fails under limit 1, and is the same under 2 and 3. -/
theorem interpret_limitedTo_nested :
    (∃ after, interpret 9 nestedCalls (untouched.limitedTo 1) =
        .failed ⟨3, .callsTooDeep 1⟩ after ∧ after.output.bytes = Text.encode "in\n" ∧
      ∀ larger, (interpret larger nestedCalls (untouched.limitedTo 2)).Leaves fun final =>
        after.output.bytes <+: final.output.bytes) ∧
    (interpret 9 nestedCalls (untouched.limitedTo 2)).transcript? =
        some (none, Text.encode "in\ndeep\n") ∧
      interpret 9 nestedCalls (untouched.limitedTo 3) =
        (interpret 9 nestedCalls (untouched.limitedTo 2)).mapMachine (limitedTo 3) := by
  have stops : (interpret 9 nestedCalls (untouched.limitedTo 1)).transcript? =
      some (some ⟨3, .callsTooDeep 1⟩, Text.encode "in\n") := by decide +kernel
  have ends : (interpret 9 nestedCalls (untouched.limitedTo 2)).transcript? =
      some (none, Text.encode "in\ndeep\n") := by decide +kernel
  obtain ⟨stopped, deep, written⟩ := Outcome.transcript?_eq_failed_iff.mp stops
  obtain ⟨after, done, -⟩ := Outcome.transcript?_eq_done_iff.mp ends
  refine ⟨⟨stopped, deep, written, ?_⟩, ends, ?_⟩
  · exact ((interpret_limitedTo 9 nestedCalls untouched 1 2 (by decide)).2 _ _ _ deep).2
  · apply (interpret_limitedTo 9 nestedCalls untouched 2 3 (by decide)).1
    intro line reached stopped failed
    rw [done] at failed
    cases failed

end Machine

end Scriptlet
