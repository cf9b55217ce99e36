import Scriptlet.Proofs.Machine.TandemEvaluation

/-!
# A stream that fails

A run that writes to a stream of some capacity is cut where the stream is full, and is the same in
all else as one whose stream takes everything.
-/

namespace Scriptlet

variable {α : Type}

/-- A stream that takes some bytes and no more. -/
def Output.limited (capacity : Nat) : Output := ⟨[], some capacity, false⟩

/-- The machine that an action left, if it ended. -/
def Outcome.after? [Host] : Outcome α → Option Machine
  | .done _ after | .failed _ after => some after
  | .unfinished => none

namespace Output

/-- What one stream took up to its capacity is all that another one took, which takes
everything. -/
structure Follows (capacity : Nat) (output stream : Output) : Prop where
  same : output.bytes = stream.bytes
  fits : stream.bytes.length ≤ capacity
  left : output.capacity = some (capacity - stream.bytes.length)
  endless : stream.capacity = none
  flushes : stream.flush = output.flush

/-- A stream is full, and what it took is the front of what another one took. -/
structure CutAt (capacity : Nat) (output stream : Output) : Prop where
  more : capacity < stream.bytes.length
  taken : output.bytes = stream.bytes.take capacity

variable {capacity : Nat} {output stream : Output} {bytes : List UInt8}

/-- Before anything is written, a stream of some capacity has all of it left. -/
theorem follows_limited (capacity : Nat) : Follows capacity (limited capacity) unlimited where
  same := rfl
  fits := Nat.zero_le _
  left := rfl
  endless := rfl
  flushes := rfl

/-- What else is written to a stream that takes everything does not change where the other one was
cut. -/
theorem CutAt.write (cut : CutAt capacity output stream) (bytes : List UInt8) :
    CutAt capacity output (stream.write bytes).1 := by
  obtain ⟨later, behind⟩ := bytes_prefix_of_suffix (stream.writes_suffix_write bytes)
  constructor
  · rw [← behind, List.length_append]
    exact Nat.lt_of_lt_of_le cut.more (Nat.le_add_right _ _)
  · rw [← behind, List.take_append_of_le_length (Nat.le_of_lt cut.more)]
    exact cut.taken

/-- A write that fits is taken by both streams. -/
theorem Follows.write_of_fits (follows : Follows capacity output stream)
    (fits : bytes.length ≤ capacity - stream.bytes.length) :
    Follows capacity (output.write bytes).1 (stream.write bytes).1 ∧
      (stream.write bytes).2 = (output.write bytes).2 := by
  have all : bytes.take (capacity - stream.bytes.length) = bytes := List.take_of_length_le fits
  have behind := bytes_write_of_unlimited follows.endless bytes
  have within := follows.fits
  refine ⟨⟨?_, ?_, ?_, ?_, ?_⟩, ?_⟩
  · rw [bytes_write_of_capacity follows.left, behind, follows.same, all]
  · rw [behind, List.length_append]
    omega
  · rw [behind, List.length_append, ← Nat.sub_sub]
    simp only [write, follows.left, all]
  · simp only [write, follows.endless]
  · rw [flush_write, flush_write, follows.flushes]
  · simp only [write, follows.endless, follows.left, if_pos fits]

/-- A write that does not fit is refused by the one stream, which is full then. -/
theorem Follows.write_of_more (follows : Follows capacity output stream)
    (more : capacity - stream.bytes.length < bytes.length) :
    (output.write bytes).2 = .error .full ∧
      CutAt capacity (output.write bytes).1 (stream.write bytes).1 := by
  have behind := bytes_write_of_unlimited follows.endless bytes
  have within := follows.fits
  refine ⟨?_, ?_, ?_⟩
  · simp only [write, follows.left, if_neg (Nat.not_le.mpr more)]
  · rw [behind, List.length_append]
    omega
  · rw [bytes_write_of_capacity follows.left, behind, follows.same, List.take_append,
      List.take_of_length_le within]

end Output

section

variable [Host]

namespace Tandem

/-- The same run on a stream of some capacity and on one that takes everything: on the first one it
drops out where that is full. -/
def capped (capacity : Nat) : Tandem where
  together settings output other stream :=
    other = settings ∧ output.Follows capacity stream
  shares _ := True
  alone error output stream :=
    error.fault = .outputRefused .full ∧ output.CutAt capacity stream

variable {capacity : Nat}

omit [Host] in
/-- A write that fits is made to both streams, and one that does not fit is cut at the capacity. -/
theorem writes_capped : (capped capacity).Writes where
  shares _ := trivial
  echoes := by
    intro settings other output stream beside
    rw [beside.1]
  beside := by
    intro settings other output stream bytes beside
    obtain ⟨same, follows⟩ := beside
    by_cases fits : bytes.length ≤ capacity - stream.bytes.length
    · obtain ⟨further, agree⟩ := follows.write_of_fits fits
      exact .inl ⟨⟨same, further⟩, agree⟩
    · obtain ⟨refused, cut⟩ := follows.write_of_more (Nat.not_le.mp fits)
      exact .inr ⟨.full, refused, fun _ => ⟨rfl, cut⟩⟩
  alone := by
    intro error stopped stream bytes dropped
    exact ⟨dropped.1, dropped.2.write bytes⟩

/-- Every step of a run is the same on both streams, but for the write that does not fit. -/
theorem sound_capped : (capped capacity).Sound .standard .standard where
  shares _ := trivial
  reports := Reporter.inTandem_standard writes_capped
  limit := by
    intro settings other output stream beside
    rw [beside.1]
    exact .inl ⟨rfl, trivial⟩

end Tandem

/-- The machine with another output stream. -/
def Machine.writingTo (output : Output) (machine : Machine) : Machine :=
  { machine with output }

/-- What holds however an action ends holds of the machine that it left. -/
theorem Outcome.Leaves.of_after? {property : Machine → Prop} {outcome : Outcome α} {after : Machine}
    (leaves : outcome.Leaves property) (ended : outcome.after? = some after) : property after := by
  cases outcome with
  | unfinished => cases ended
  | done value last =>
      cases ended
      exact leaves
  | failed error last =>
      cases ended
      exact leaves

/-- Either all of the output was taken, and nothing else differs, or it was cut. -/
theorem Outcome.taken_or_cut {capacity : Nat} {cut whole : Outcome α} {after : Machine}
    (goes : cut.InTandem (.capped capacity) whole) (ended : whole.after? = some after) :
    (∃ output : Output, output.Follows capacity after.output ∧
      cut = whole.mapMachine (Machine.writingTo output)) ∨
    ∃ line stopped, cut = .failed ⟨line, .outputRefused .full⟩ stopped ∧
      stopped.output.CutAt capacity after.output := by
  cases goes with
  | unfinished => cases ended
  | @done _ last settings stream beside =>
      obtain ⟨rfl, follows⟩ := beside
      cases ended
      exact .inl ⟨last.output, follows, rfl⟩
  | @failed _ last settings stream _ beside =>
      obtain ⟨rfl, follows⟩ := beside
      cases ended
      exact .inl ⟨last.output, follows, rfl⟩
  | @alone error stopped _ dropped kept =>
      obtain ⟨_, full, _⟩ := dropped
      obtain ⟨line, fault⟩ := error
      cases full
      exact .inr ⟨line, stopped, rfl, (kept.of_after? ended).2⟩

namespace Machine

/-- A program goes side by side with itself on a stream that takes everything. -/
theorem inTandem_writingTo (bound : Nat) (statements : List Statement) (machine : Machine)
    (capacity : Nat) :
    (interpret bound statements (machine.writingTo (.limited capacity))).InTandem (.capped capacity)
      (interpret bound statements (machine.writingTo .unlimited)) := by
  have beside : (Tandem.capped capacity).together
      (machine.writingTo (.limited capacity)).settings
      (machine.writingTo (.limited capacity)).output machine.settings .unlimited :=
    ⟨rfl, Output.follows_limited capacity⟩
  have answer := inTandem_interpret Tandem.sound_capped
    (fun beside => beside.2.flushes) bound statements beside
  rw [interpretReporting_standard] at answer
  exact answer

/-- **Output that is cut**: a run that writes no more than a stream takes is the same on that stream
as on one that takes everything. One that writes more fails there with an error of the output, and
the stream has as much of the front of it as it takes. Both runs begin in one state of the host,
whatever the host is. -/
theorem interpret_limited (bound : Nat) (statements : List Statement) (machine after : Machine)
    (capacity : Nat)
    (ended : (interpret bound statements (machine.writingTo .unlimited)).after? = some after) :
    (after.output.bytes.length ≤ capacity → ∃ output, output.bytes = after.output.bytes ∧
      interpret bound statements (machine.writingTo (.limited capacity)) =
        (interpret bound statements (machine.writingTo .unlimited)).mapMachine
          (writingTo output)) ∧
    (capacity < after.output.bytes.length → ∃ line stopped,
      interpret bound statements (machine.writingTo (.limited capacity)) =
        .failed ⟨line, .outputRefused .full⟩ stopped ∧
      stopped.output.bytes = after.output.bytes.take capacity) := by
  have answer := inTandem_writingTo bound statements machine capacity
  rcases Outcome.taken_or_cut answer ended with
    ⟨output, follows, same⟩ | ⟨line, stopped, failed, cut⟩
  · refine ⟨fun _ => ⟨output, follows.same, same⟩, fun more => ?_⟩
    exact absurd follows.fits (Nat.not_le.mpr more)
  · refine ⟨fun fits => ?_, fun _ => ⟨line, stopped, failed, cut.taken⟩⟩
    exact absurd fits (Nat.not_le.mpr cut.more)

end Machine

end

namespace Machine

/-- A loop whose condition calls what writes its argument, and a line behind the loop. -/
def writingCalls : List Statement :=
  [.function 1 "f" ["x"] [.print 1 (.reference 1 "x"), .giveBack 1 (some (.reference 1 "x"))],
    .whileLoop 2 (.logical 2 .and (.call 2 (.reference 2 "f") [.literal 2 (.text "ab")])
        (.literal 2 (.bool false)))
      (.block 2 []),
    .print 3 (.literal 3 (.text "cd"))]

/-- The theorem at a loop whose condition writes, with room for the whole output and for one
byte. -/
theorem interpret_limited_writingCalls :
    ∃ after, (interpret 9 writingCalls (untouched.writingTo .unlimited)).after? = some after ∧
      after.output.bytes = Text.encode "ab\ncd\n" ∧
      (∃ output, output.bytes = after.output.bytes ∧
        interpret 9 writingCalls (untouched.writingTo (.limited 6)) =
          (interpret 9 writingCalls (untouched.writingTo .unlimited)).mapMachine
            (writingTo output)) ∧
      ∃ line stopped, interpret 9 writingCalls (untouched.writingTo (.limited 1)) =
          .failed ⟨line, .outputRefused .full⟩ stopped ∧
        stopped.output.bytes = after.output.bytes.take 1 := by
  have whole : (interpret 9 writingCalls (untouched.writingTo .unlimited)).transcript? =
      some (none, Text.encode "ab\ncd\n") := by decide +kernel
  obtain ⟨after, done, written⟩ := Outcome.transcript?_eq_done_iff.mp whole
  have ended : (interpret 9 writingCalls (untouched.writingTo .unlimited)).after? = some after := by
    rw [done]
    rfl
  have six : after.output.bytes.length = 6 := by
    rw [written]
    decide +kernel
  refine ⟨after, ended, written, ?_, ?_⟩
  · exact (interpret_limited 9 writingCalls untouched after 6 ended).1 (Nat.le_of_eq six)
  · apply (interpret_limited 9 writingCalls untouched after 1 ended).2
    rw [six]
    decide

end Machine

end Scriptlet
