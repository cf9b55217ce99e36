/-!
# Hosts

What programs ask of the system that they run on: files, command lines and the clock. A host is an
ambient parameter of everything that runs programs, and nothing is known of it but that it is a
function of a state of its own. So whatever a host is, two runs that begin in one state and ask for
the same things in the same order get the same answers.
-/

namespace Scriptlet

/-- A system that programs run on. Every request may change its state, whatever the answer is, and
where a request fails, the host says why. A host has no part in the input and the output of a
program. -/
class Host where
  /-- The state of the system: its files, its processes, its clock. -/
  State : Type
  /-- Makes an empty file where nothing stands. -/
  create (path : String) : State → Except String Unit × State
  /-- The bytes of a file. -/
  read (path : String) : State → Except String (List UInt8) × State
  /-- Gives a file other bytes, and makes it where there is none. -/
  write (path : String) (bytes : List UInt8) : State → Except String Unit × State
  /-- Removes a file. -/
  remove (path : String) : State → Except String Unit × State
  /-- Runs a command line in the shell of the system. The answer is what it writes to its output,
  whatever its status is; the request fails only where the shell cannot be started. -/
  run (command : String) : State → Except String (List UInt8) × State
  /-- The time of day in nanoseconds since the epoch. -/
  now : State → Int × State
  /-- Waits for some seconds. -/
  wait (seconds : Float) : State → State

end Scriptlet
