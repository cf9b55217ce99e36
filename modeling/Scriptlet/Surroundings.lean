import Scriptlet.Shell.Run
import Scriptlet.World.Basic

/-!
# Surroundings

A host that is computed: a tree of folders with the working folder in it, a shell that works in that
tree, and a clock. Files and commands see the same tree, and follow the same paths in it. It is one
host of many, to run programs and examples on: what is proved of runs holds on every host.
-/

namespace Scriptlet

/-- The files, seen from the working folder, and the nanoseconds since the epoch. -/
structure Surroundings where
  place : Shell.Place
  clock : Int

namespace Surroundings

/-- Surroundings with some files in the working folder. -/
def fresh (working : Folder) (clock : Int) : Surroundings :=
  ⟨.fresh working, clock⟩

/-- Takes over a changed tree, where there is one, and tells why there is none. -/
def settle (changed : Except PathError Shell.Place) (surroundings : Surroundings) :
    Except String Unit × Surroundings :=
  match changed with
  | .ok place => (.ok (), { surroundings with place })
  | .error cause => (.error cause.message, surroundings)

/-- The bytes of the file that a path leads to. -/
def read (path : String) (surroundings : Surroundings) : Except String (List UInt8) :=
  match surroundings.place.locate path >>= surroundings.place.readAt with
  | .ok octets => .ok octets.toBytes
  | .error cause => .error cause.message

/-- The tree with a file written where a path leads. -/
def write (path : String) (bytes : List UInt8) (surroundings : Surroundings) :
    Except PathError Shell.Place := do
  let way ← surroundings.place.locate path
  surroundings.place.writeAt way (.ofBytes bytes)

/-- Why a command cannot be run that has a NUL in it. -/
def holdsNul : String := "nul byte found in provided data"

/-- Runs a command in the working folder. -/
def run (command : String) (surroundings : Surroundings) :
    Except String (List UInt8) × Surroundings :=
  let (written, place) := Shell.run surroundings.place command
  (written.elim (.error holdsNul) .ok, { surroundings with place })

/-- The nanoseconds that pass while the clock is read. -/
def tick : Int := 1000

/-- Reads the clock. -/
def now (surroundings : Surroundings) : Int × Surroundings :=
  let clock := surroundings.clock + tick
  (clock, { surroundings with clock })

/-- Lets some seconds pass. -/
def wait (seconds : Float) (surroundings : Surroundings) : Surroundings :=
  { surroundings with clock := surroundings.clock + (seconds * 1000000000).toUInt64.toNat }

/-- The surroundings as a host. -/
instance host : Host where
  State := Surroundings
  create path surroundings := settle (surroundings.place.create path) surroundings
  read path surroundings := (read path surroundings, surroundings)
  write path bytes surroundings := settle (write path bytes surroundings) surroundings
  remove path surroundings := settle (surroundings.place.remove path) surroundings
  run := run
  now := now
  wait := wait

end Surroundings

/-- The world with an empty working folder, at the epoch, and some input. -/
def World.bare (input : Input) : World := ⟨Surroundings.fresh [] 0, input⟩

end Scriptlet
