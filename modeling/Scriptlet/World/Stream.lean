import Scriptlet.RuntimeError
import Scriptlet.Text.Utf8

/-!
# Streams

Input is read line by line. Output takes what is written, up to its capacity where it has one; a
write that does not fit is cut, and refused.
-/

namespace Scriptlet

/-- The bytes that are still to be read. -/
abbrev Input : Type := List UInt8

/-- The byte that ends a line. -/
def newline : UInt8 := 10

namespace Input

/-- The bytes of the next line, with the byte that ends it, and the bytes behind it. -/
def splitLine (input : Input) : List UInt8 × Input :=
  let line := input.takeWhile (· != newline)
  match input.dropWhile (· != newline) with
  | [] => (line, [])
  | ending :: rest => (line ++ [ending], rest)

/-- A line and what stands behind it are the whole input. -/
theorem splitLine_append (input : Input) : input.splitLine.1 ++ input.splitLine.2 = input := by
  have parts : input.takeWhile (· != newline) ++ input.dropWhile (· != newline) = input :=
    List.takeWhile_append_dropWhile
  unfold splitLine
  dsimp only
  split
  · next ended => simpa [ended] using parts
  · next ending rest found => simpa [found] using parts

/-- A line without the line ends at its end. -/
def trimEnd (line : String) : String :=
  String.ofList (line.toList.reverse.dropWhile fun c => c == '\n' || c == '\r').reverse

/-- The next line as text. At the end of the input there is none, and none for bytes that are no
text. -/
def readLine (input : Input) : Option String × Input :=
  let (line, rest) := input.splitLine
  if line.isEmpty then (none, rest)
  else ((Text.decode? line).map trimEnd, rest)

end Input

/-- What was written, the last write first, and what else the stream can take. -/
structure Output where
  writes : List (List UInt8)
  capacity : Option Nat
  flushFails : Bool

namespace Output

/-- A stream that takes everything. -/
def unlimited : Output := ⟨[], none, false⟩

/-- All bytes written, the first one first. -/
def bytes (output : Output) : List UInt8 :=
  output.writes.reverse.flatten

/-- Writes some bytes, or as many as the stream can take. -/
def write (output : Output) (bytes : List UInt8) : Output × Except StreamError Unit :=
  match output.capacity with
  | none => ({ output with writes := bytes :: output.writes }, .ok ())
  | some capacity =>
    let taken := bytes.take capacity
    ({ output with writes := taken :: output.writes, capacity := some (capacity - taken.length) },
      if bytes.length ≤ capacity then .ok () else .error .full)

/-- A stream that takes everything has in the end what was written. -/
theorem bytes_write_of_unlimited {output : Output} (unlimited : output.capacity = none)
    (bytes : List UInt8) : (output.write bytes).1.bytes = output.bytes ++ bytes := by
  simp [write, unlimited, Output.bytes]

/-- A stream with a capacity takes what fits. -/
theorem bytes_write_of_capacity {output : Output} {capacity : Nat}
    (limited : output.capacity = some capacity) (bytes : List UInt8) :
    (output.write bytes).1.bytes = output.bytes ++ bytes.take capacity := by
  simp [write, limited, Output.bytes]

/-- What was written stays, whatever is written afterwards. -/
theorem writes_suffix_write (output : Output) (bytes : List UInt8) :
    output.writes <:+ (output.write bytes).1.writes := by
  unfold write
  cases output.capacity with
  | none => exact List.suffix_cons _ _
  | some capacity => exact List.suffix_cons _ _

/-- Later writes stand behind earlier ones. -/
theorem bytes_prefix_of_suffix {output stream : Output} (kept : output.writes <:+ stream.writes) :
    output.bytes <+: stream.bytes := by
  obtain ⟨later, same⟩ := kept
  refine ⟨later.reverse.flatten, ?_⟩
  unfold Output.bytes
  rw [← same, List.reverse_append, List.flatten_append]

/-- Hands on what was written. -/
def flush (output : Output) : Except StreamError Unit :=
  if output.flushFails then .error .flushFailed else .ok ()

/-- Whether a stream can be handed on does not depend on what is written to it. -/
theorem flush_write (output : Output) (bytes : List UInt8) :
    (output.write bytes).1.flush = output.flush := by
  unfold write
  cases output.capacity <;> rfl

end Output

end Scriptlet
