import Scriptlet.Proofs.Machine.TandemEvaluation

/-!
# Echo adds lines and nothing else

Whether values of expression statements are written makes no difference but for the lines with them.
All runs that write the values of some kinds of statement, and no others, are compared with one that
notes every value together with the kind of statement that it comes from.
-/

namespace Scriptlet

variable {α : Type}

/-- A value that a statement gave, and which kind of statement that was. -/
abbrev Given : Type := Origin × Value

namespace Given

/-- The lines with the values from some kinds of statement. -/
def lines (keep : Origin → Bool) (given : List Given) : List (List UInt8) :=
  (given.filter fun item => keep item.1).map fun item => Machine.lineBytes item.2

/-- A byte that tells which kind of statement a value comes from. -/
def mark : Origin → UInt8
  | .printed => 0
  | .echoed => 1

/-- A line with a value behind the mark of its origin. -/
def note (item : Given) : List UInt8 :=
  mark item.1 :: Machine.lineBytes item.2

variable {keep : Origin → Bool} {given others : List Given}

theorem lines_append (given others : List Given) :
    lines keep (given ++ others) = lines keep given ++ lines keep others := by
  unfold lines
  rw [List.filter_append, List.map_append]

/-- Marks tell origins apart. -/
theorem mark_injective {origin other : Origin} (same : mark origin = mark other) :
    origin = other := by
  cases origin <;> cases other <;> first | rfl | cases same

/-- Where the notes are the same, the lines are. -/
theorem lines_eq_of_notes (same : given.map note = others.map note) :
    lines keep given = lines keep others := by
  induction given generalizing others with
  | nil =>
      cases others with
      | nil => rfl
      | cons other rest => cases same
  | cons item given ih =>
      cases others with
      | nil => cases same
      | cons other rest =>
          obtain ⟨origin, value⟩ := item
          obtain ⟨source, result⟩ := other
          obtain ⟨first, later⟩ := List.cons.inj same
          obtain ⟨marks, bytes⟩ := List.cons.inj first
          cases mark_injective marks
          have behind := ih later
          unfold lines at behind ⊢
          by_cases kept : keep origin = true
          · simp only [List.filter_cons, kept, if_true, List.map_cons, behind, bytes]
          · simp only [List.filter_cons, kept, if_false, Bool.false_eq_true, behind]

end Given

/-! ## Streams with more lines -/

namespace Output

/-- The stream with more writes, the first one first. -/
def extended (output : Output) (lines : List (List UInt8)) : Output :=
  { output with writes := lines.reverse ++ output.writes }

variable {output : Output} {lines more : List (List UInt8)}

/-- More lines, and then more, are all of them in order. -/
theorem extended_extended :
    (output.extended lines).extended more = output.extended (lines ++ more) := by
  unfold extended
  rw [List.reverse_append, List.append_assoc]

/-- Streams with more lines are told apart by these lines. -/
theorem extended_injective (same : output.extended lines = output.extended more) :
    lines = more := by
  have writes : lines.reverse ++ output.writes = more.reverse ++ output.writes :=
    congrArg Output.writes same
  exact List.reverse_injective (List.append_cancel_right writes)

/-- A stream without end takes whatever is written. -/
theorem write_of_endless (endless : output.capacity = none) (bytes : List UInt8) :
    output.write bytes = (output.extended [bytes], .ok ()) := by
  obtain ⟨writes, capacity, flushFails⟩ := output
  cases endless
  rfl

end Output

section

variable [Host]

/-- A value is written to a stream without end as its line. -/
theorem Machine.writeLine_of_endless {machine : Machine} {line : Nat} {value : Value}
    (endless : machine.output.capacity = none) :
    writeLine line value machine =
      .done () (machine.refit machine.settings (machine.output.extended [lineBytes value])) := by
  rw [writeLine_apply, Output.write_of_endless endless]

/-! ## Reporters that write the values from some kinds of statement -/

namespace Reporter

/-- Under a setting for the echo, a reporter writes the values from some kinds of statement. -/
def Selects (report : Reporter) (echo : Bool) (keep : Origin → Bool) : Prop :=
  ∀ origin line value (machine : Machine), machine.settings.echo = echo →
    report origin line value machine =
      if keep origin then Machine.writeLine line value machine else .done () machine

/-- Every value is noted with its origin. -/
def noting : Reporter := fun origin _ value => Action.change fun machine =>
  machine.refit machine.settings (machine.output.extended [Given.note (origin, value)])

/-- With the echo on, all values are written. -/
theorem selects_standard_loud : standard.Selects true fun _ => true := by
  intro origin line value machine loud
  cases origin with
  | printed => rfl
  | echoed =>
      change Evaluation.echoLine line value machine = _
      rw [Evaluation.echoLine_apply, loud]

/-- With the echo off, those that are printed are written. -/
theorem selects_standard_quiet : standard.Selects false (· = .printed) := by
  intro origin line value machine quiet
  cases origin with
  | printed => rfl
  | echoed =>
      change Evaluation.echoLine line value machine = _
      rw [Evaluation.echoLine_apply, quiet]
      rfl

/-- Other reporters write the values of one origin, whatever the echo. -/
theorem selects_only (origin : Origin) (echo : Bool) : (only origin).Selects echo (· = origin) := by
  intro other line value machine _
  unfold only
  by_cases same : other = origin
  · simp only [same, if_true, decide_true]
  · simp only [same, if_false, decide_false, Bool.false_eq_true]
    rfl

end Reporter

/-- A run that notes every value, and one that writes those from some kinds of statement, which both
began on one machine. -/
def Tandem.noted (start : Machine) (echo : Bool) (keep : Origin → Bool) : Tandem where
  together settings output other stream :=
    settings = start.settings ∧ other = { start.settings with echo } ∧ ∃ given : List Given,
      output = start.output.extended (given.map Given.note) ∧
      stream = start.output.extended (Given.lines keep given)
  shares _ := True
  alone _ _ _ := False

/-- Flushing does to both streams the same: they differ in what was written alone. -/
theorem Tandem.flush_of_noted {start : Machine} {echo : Bool} {keep : Origin → Bool}
    {settings other : Settings} {output stream : Output}
    (beside : (noted start echo keep).together settings output other stream) :
    stream.flush = output.flush := by
  obtain ⟨-, -, given, rfl, rfl⟩ := beside
  rfl

namespace Reporter.Selects

variable {report : Reporter} {echo : Bool} {keep : Origin → Bool} {start : Machine}

/-- Reporting a value goes on in tandem: it is noted in one run, and in the other one written or
passed over. -/
theorem inTandem (selects : report.Selects echo keep) (endless : start.output.capacity = none)
    (origin : Origin) (line : Nat) (value : Value) :
    (noting origin line value).InTandem (.noted start echo keep) (report origin line value) where
  together := by
    intro machine settings output beside
    obtain ⟨same, rfl, given, notes, rfl⟩ := beside
    let more := given ++ [(origin, value)]
    have noted : noting origin line value machine =
        .done () (machine.refit start.settings (start.output.extended (more.map Given.note))) := by
      rw [List.map_append, ← Output.extended_extended, ← notes, ← same]
      rfl
    have told (other : Settings) (echoes : other.echo = echo) : report origin line value
          (machine.refit other (start.output.extended (Given.lines keep given))) =
        .done () (machine.refit other (start.output.extended (Given.lines keep more))) := by
      rw [selects origin line value _ echoes, Given.lines_append, ← Output.extended_extended]
      by_cases kept : keep origin = true
      · have takes : (machine.refit other (start.output.extended
            (Given.lines keep given))).output.capacity = none := endless
        rw [if_pos kept, Machine.writeLine_of_endless takes]
        simp only [Given.lines, List.filter_cons, kept, if_true]
        rfl
      · rw [if_neg kept]
        simp only [Given.lines, List.filter_cons, kept, if_false, Bool.false_eq_true]
        rfl
    rw [noted, told _ rfl]
    exact .done ⟨rfl, rfl, more, rfl, rfl⟩
  alone _ _ _ dropped := dropped.elim

/-- Every step of a run is the same in both, since nothing fails where the stream takes
everything. -/
theorem sound (selects : report.Selects echo keep) (endless : start.output.capacity = none) :
    (Tandem.noted start echo keep).Sound noting report where
  shares _ := trivial
  reports := selects.inTandem endless
  limit := by
    intro settings other output stream beside
    obtain ⟨rfl, rfl, -⟩ := beside
    exact .inl ⟨rfl, trivial⟩

end Reporter.Selects

/-- The machine with the echo switched on or off. -/
def Machine.echoing (echo : Bool) (machine : Machine) : Machine :=
  { machine with settings := { machine.settings with echo } }

/-- The machine behind a run that began on `start` and wrote some lines, where all else is as in
`after`. -/
def Machine.wrote (start : Machine) (lines : List (List UInt8)) (after : Machine) : Machine :=
  after.refit start.settings (start.output.extended lines)

/-- Some values were noted, if an action ended. -/
def Outcome.Noted (start : Machine) (given : List Given) (ended : Outcome α) : Prop :=
  ended.Leaves fun after => after.output = start.output.extended (given.map Given.note)

namespace Outcome

variable {start : Machine} {echo : Bool} {keep : Origin → Bool} {given : List Given}
  {ended last : Outcome α}

/-- A run in tandem with one that notes values has noted some. -/
theorem exists_noted (goes : ended.InTandem (.noted start echo keep) last) :
    ∃ given, ended.Noted start given := by
  cases goes with
  | unfinished => exact ⟨[], trivial⟩
  | done beside =>
      obtain ⟨-, -, given, notes, -⟩ := beside
      exact ⟨given, notes⟩
  | failed _ beside =>
      obtain ⟨-, -, given, notes, -⟩ := beside
      exact ⟨given, notes⟩
  | alone dropped _ =>
      obtain ⟨_, impossible⟩ := dropped
      exact impossible.elim

/-- What was noted tells what the other run wrote. -/
theorem eq_of_noted (goes : ended.InTandem (.noted start echo keep) last)
    (noted : ended.Noted start given) :
    last = ended.mapMachine ((start.echoing echo).wrote (Given.lines keep given)) := by
  cases goes with
  | unfinished => rfl
  | done beside =>
      obtain ⟨-, rfl, others, notes, rfl⟩ := beside
      have same := Output.extended_injective (Eq.trans (Eq.symm noted) notes)
      rw [← Given.lines_eq_of_notes same]
      rfl
  | failed _ beside =>
      obtain ⟨-, rfl, others, notes, rfl⟩ := beside
      have same := Output.extended_injective (Eq.trans (Eq.symm noted) notes)
      rw [← Given.lines_eq_of_notes same]
      rfl
  | alone dropped _ =>
      obtain ⟨_, impossible⟩ := dropped
      exact impossible.elim

end Outcome

namespace Machine

/-- There is one way to end and one list of values, which tell what becomes of all runs that write
the values from some kinds of statement. -/
theorem interpretReporting_of_selects (bound : Nat) (statements : List Statement)
    {machine : Machine} (endless : machine.output.capacity = none) :
    ∃ (ended : Outcome Unit) (given : List Given), ∀ report echo keep,
      Reporter.Selects report echo keep →
      interpretReporting report bound statements (machine.echoing echo) =
        ended.mapMachine ((machine.echoing echo).wrote (Given.lines keep given)) := by
  have goes {report : Reporter} {echo : Bool} {keep : Origin → Bool}
      (selects : report.Selects echo keep) :
      (interpretReporting .noting bound statements machine).InTandem (.noted machine echo keep)
        (interpretReporting report bound statements (machine.echoing echo)) :=
    inTandem_interpret (selects.sound endless) Tandem.flush_of_noted bound statements
      ⟨rfl, rfl, [], rfl, rfl⟩
  -- Any one of these runs tells that there are notes.
  obtain ⟨given, noted⟩ := Outcome.exists_noted (goes (Reporter.selects_only .printed true))
  exact ⟨_, given, fun report echo keep selects => Outcome.eq_of_noted (goes selects) noted⟩

/-- **Echo**: on a stream that takes everything, a run with echo and one without end in the same way
and leave the same machine, but for what was written. With echo, there is a line for each value that
a statement gave; without echo, there are those of them that were printed. The others are the lines
of a run that writes the values of expression statements alone. All of these runs begin in one state
of the host, whatever the host is. -/
theorem interpret_echoing (bound : Nat) (statements : List Statement) (machine : Machine)
    (endless : machine.output.capacity = none) :
    ∃ (ended : Outcome Unit) (given : List Given),
      interpret bound statements (machine.echoing true) =
        ended.mapMachine ((machine.echoing true).wrote (Given.lines (fun _ => true) given)) ∧
      interpret bound statements (machine.echoing false) =
        ended.mapMachine ((machine.echoing false).wrote (Given.lines (· = .printed) given)) ∧
      interpretReporting (.only .echoed) bound statements (machine.echoing false) =
        ended.mapMachine ((machine.echoing false).wrote (Given.lines (· = .echoed) given)) := by
  obtain ⟨ended, given, told⟩ := interpretReporting_of_selects bound statements endless
  refine ⟨ended, given, ?_, ?_, ?_⟩
  · rw [← interpretReporting_standard]
    exact told _ _ _ Reporter.selects_standard_loud
  · rw [← interpretReporting_standard]
    exact told _ _ _ Reporter.selects_standard_quiet
  · exact told _ _ _ (Reporter.selects_only .echoed false)

end Machine

end

namespace Machine

/-- A call whose body has an expression by itself in front of what it prints. -/
def echoingCall : List Statement :=
  [.function 1 "f" [] [.expression 1 (.literal 1 (.text "a")), .print 1 (.literal 1 (.text "b"))],
    .expression 2 (.call 2 (.reference 2 "f") [])]

/-- The theorem at a call with an expression in its body, with the echo, without it, and with the
echoed values alone. -/
theorem interpret_echoing_call :
    untouched.output.capacity = none ∧
      (interpret 9 echoingCall (untouched.echoing true)).transcript? =
        some (none, Text.encode "a\nb\nnil\n") ∧
      (interpret 9 echoingCall (untouched.echoing false)).transcript? =
        some (none, Text.encode "b\n") ∧
      (interpretReporting (.only .echoed) 9 echoingCall (untouched.echoing false)).transcript? =
        some (none, Text.encode "a\nnil\n") ∧
      ∃ (ended : Outcome Unit) (given : List Given),
        interpret 9 echoingCall (untouched.echoing true) =
          ended.mapMachine ((untouched.echoing true).wrote (Given.lines (fun _ => true) given)) ∧
        interpret 9 echoingCall (untouched.echoing false) =
          ended.mapMachine ((untouched.echoing false).wrote (Given.lines (· = .printed) given)) ∧
        interpretReporting (.only .echoed) 9 echoingCall (untouched.echoing false) =
          ended.mapMachine ((untouched.echoing false).wrote (Given.lines (· = .echoed) given)) := by
  refine ⟨rfl, ?_, ?_, ?_, interpret_echoing 9 echoingCall untouched rfl⟩
  · decide +kernel
  · decide +kernel
  · decide +kernel

end Machine

end Scriptlet
