import Scriptlet.Main
import Scriptlet.Syntax.Outline
import Scriptlet.Proofs.Grammar.Reading
import Scriptlet.Proofs.Grammar.Expression
import Scriptlet.Proofs.Grammar.ExpressionSoundness
import Scriptlet.Proofs.Grammar.Statement
import Scriptlet.Proofs.Grammar.StatementSoundness
import Scriptlet.Proofs.Grammar.Bound
import Scriptlet.Proofs.Grammar.Program
import Scriptlet.Proofs.Grammar.ExpressionCompleteness
import Scriptlet.Proofs.Grammar.StatementCompleteness
import Scriptlet.Proofs.Grammar.Phrases
import Scriptlet.Proofs.Grammar.Unparse
import Scriptlet.Proofs.Grammar.RoundTrip
import Scriptlet.Proofs.Grammar.Context
import Scriptlet.Proofs.Grammar.ClauseLoop
import Scriptlet.Proofs.Machine.Reachability
import Scriptlet.Proofs.Machine.Confinement
import Scriptlet.Proofs.Machine.ConfinedEvaluation
import Scriptlet.Proofs.Machine.Bound
import Scriptlet.Proofs.Value.Lines
import Scriptlet.Proofs.Machine.EvaluationUpToLines
import Scriptlet.Proofs.Grammar.Joining
import Scriptlet.Proofs.Machine.Sessions
import Scriptlet.Proofs.Value.Resemblance
import Scriptlet.Proofs.Machine.Comparison
import Scriptlet.Proofs.Machine.ComparedEvaluation
import Scriptlet.Proofs.Machine.Policy
import Scriptlet.Proofs.Machine.Rest
import Scriptlet.Proofs.Machine.Nesting
import Scriptlet.Proofs.Machine.BoundNames
import Scriptlet.Proofs.Machine.Lookups
import Scriptlet.Proofs.Machine.Returns
import Scriptlet.Proofs.Machine.Noninterference
import Scriptlet.Proofs.Machine.Reporting
import Scriptlet.Proofs.Machine.Tandem
import Scriptlet.Proofs.Machine.TandemEvaluation
import Scriptlet.Proofs.Machine.CallLimit
import Scriptlet.Proofs.Machine.Capacity
import Scriptlet.Proofs.Machine.Echo
import Scriptlet.Proofs.Grammar.Counted
import Scriptlet.Proofs.Grammar.Progress
import Scriptlet.Proofs.Grammar.CleanPrefix
import Scriptlet.Proofs.Number.Digits
import Scriptlet.Proofs.Token.Pattern
import Scriptlet.Proofs.Token.LongestMatch
import Scriptlet.Proofs.Token.Division
import Scriptlet.Proofs.Token.Spacing
import Scriptlet.Proofs.Grammar.Levels
import Scriptlet.Proofs.Grammar.Origin
import Scriptlet.Proofs.Grammar.Precedence
import Scriptlet.Proofs.Machine.ErrorLines
import Scriptlet.Proofs.Number.Doubles
import Scriptlet.Proofs.Number.Printing
import Scriptlet.Proofs.Number.Rounding
import Scriptlet.Proofs.Number.RoundTrip
import Scriptlet.Proofs.Value.Equality
import Scriptlet.Proofs.Syntax.Declarations
import Scriptlet.Proofs.Machine.HollowScope
import Scriptlet.Proofs.Machine.Braces
import Scriptlet.Proofs.Machine.Identity
import Scriptlet.Proofs.Machine.Loops
import Scriptlet.Proofs.Machine.Updates
import Scriptlet.Proofs.World.InputLines
import Scriptlet.Proofs.Machine.Recording
import Scriptlet.Proofs.Machine.Conversation
import Scriptlet.Proofs.Grammar.Failures
import Scriptlet.Proofs.Grammar.Recovery
