import Scriptlet.CommandLine
import Scriptlet.Proofs.Machine.Recording

/-!
# Sessions that read

Whoever holds a session reads lines from the same input as the programs that run in it. In whatever
order they do so, and whether the programs end, fail or go on for ever, each line is read once and
in its turn.
-/

namespace Scriptlet

section

variable [Host]

namespace Machine

/-- A session: machines are run and read from, one after the other, with the answers that the input
has given to all who read. Something may be written in between. A run that does not end is the last
of its session, and leaves no machine. -/
inductive Session (start : Machine) : List (Option String) → Option Machine → Prop
  | begins : Session start [] (some start)
  | reads {log : List (Option String)} {machine : Machine} :
      Session start log (some machine) →
      Session start (log ++ [machine.readLine.1]) (some machine.readLine.2)
  | writes {log : List (Option String)} {machine : Machine} (output : Output) :
      Session start log (some machine) → Session start log (some { machine with output })
  | runs {log : List (Option String)} {machine : Machine} {bound : Nat} {source : String} :
      Session start log (some machine) →
      Session start (log ++ machine.answers bound source) (runWithin bound source machine).after?

variable {start : Machine} {log : List (Option String)} {last : Option Machine}

/-- The input has given the answers of a session, and what is left of it is behind them. -/
theorem Session.gives (session : start.Session log last) :
    ∃ rest, start.world.input.Gives log rest ∧ ∀ machine ∈ last, machine.world.input = rest := by
  induction session with
  | begins =>
      refine ⟨_, .nothing, ?_⟩
      rintro _ ⟨⟩
      rfl
  | @reads log machine _ ih =>
      obtain ⟨rest, given, left⟩ := ih
      obtain rfl : machine.world.input = rest := left machine rfl
      refine ⟨_, given.append .one, ?_⟩
      rintro _ ⟨⟩
      rfl
  | @writes log machine output _ ih =>
      obtain ⟨rest, given, left⟩ := ih
      refine ⟨rest, given, ?_⟩
      rintro _ ⟨⟩
      exact left machine rfl
  | @runs log machine bound source _ ih =>
      obtain ⟨middle, given, left⟩ := ih
      obtain rfl : machine.world.input = middle := left machine rfl
      obtain ⟨rest, later, behind⟩ := machine.gives_answers bound source
      exact ⟨rest, given.append later, behind⟩

end Machine

end

namespace Machine

end Machine

namespace CommandLine

open Machine

variable [Host]

variable {start machine : Machine} {log : List (Option String)}

/-- A conversation is a session: it reads a line and runs it, as long as there is one. -/
theorem session_interact (colored : Bool) (bound : Nat) (errors : String)
    (session : start.Session log (some machine)) :
    ∃ more last, start.Session (log ++ more) last ∧
      ∀ after ∈ last, (interact colored bound errors machine).world = after.world := by
  induction bound generalizing log machine errors with
  | zero =>
      refine ⟨[], some machine, by rwa [List.append_nil], ?_⟩
      rintro _ ⟨⟩
      rfl
  | succ bound ih =>
      have asked : start.Session (log ++ [(prompt "> " machine).readLine.1])
          (some (prompt "> " machine).readLine.2) :=
        (session.writes _).reads
      unfold interact
      generalize (prompt "> " machine).readLine = read at asked ⊢
      obtain ⟨answer, behind⟩ := read
      cases answer with
      | none =>
          refine ⟨_, some (prompt "\n" behind), asked.writes _, ?_⟩
          rintro _ ⟨⟩
          rfl
      | some line =>
          have ran : start.Session (log ++ [some line] ++ behind.answers ampleBound line)
              (behind.run line).after? :=
            asked.runs
          dsimp only
          cases ended : behind.run line with
          | unfinished =>
              rw [ended] at ran
              exact ⟨_, none, by rwa [List.append_assoc] at ran, fun _ missing => nomatch missing⟩
          | finished after =>
              rw [ended] at ran
              obtain ⟨more, last, goesOn, left⟩ := ih errors ran
              exact ⟨_, last, by rwa [List.append_assoc, List.append_assoc] at goesOn, left⟩
          | refused error after =>
              rw [ended] at ran
              obtain ⟨more, last, goesOn, left⟩ := ih _ ran
              exact ⟨_, last, by rwa [List.append_assoc, List.append_assoc] at goesOn, left⟩

/-- So all that the program reads, where it holds a conversation, is read in a session. -/
theorem session_converse (colored : Bool) (world : World) :
    ∃ log last, (fresh ⟨true, callLimit⟩ world .unlimited).Session log last ∧
      ∀ after ∈ last, (converse colored world).world = after.world := by
  have first : (fresh ⟨true, callLimit⟩ world .unlimited).Session []
      (some (fresh ⟨true, callLimit⟩ world .unlimited)) := .begins
  obtain ⟨log, last, session, left⟩ :=
    session_interact colored (world.input.length + 1) "" first
  exact ⟨_, last, session, left⟩

end CommandLine

end Scriptlet
