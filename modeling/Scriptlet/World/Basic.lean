import Scriptlet.Number.Notation
import Scriptlet.Value.Basic
import Scriptlet.World.Host
import Scriptlet.World.Stream

/-!
# The world of a program

What a program can learn and change outside of itself: the host and the input. Native functions are
functions of their arguments and of this world. What the host answers is turned into values here.
-/

namespace Scriptlet

variable [Host]

/-- The state of the host, and the input. -/
structure World where
  host : Host.State
  input : Input

namespace World

variable {α : Type}

/-- Asks the host for something. -/
def ask (world : World) (request : Host.State → α × Host.State) : α × World :=
  let (answer, host) := request world.host
  (answer, { world with host })

/-- Asks the host for a change, and tells whether it was made. -/
def change (world : World) (request : Host.State → Except String Unit × Host.State) :
    Value × World :=
  let (changed, world) := world.ask request
  (.bool changed.isOk, world)

/-- Why a file has no text. -/
def notText : String := "stream did not contain valid UTF-8"

/-- The text that some bytes spell. -/
def textOf (bytes : List UInt8) : Except String String :=
  match Text.decode? bytes with
  | some text => .ok text
  | none => .error notText

/-- The text of a file. -/
def readText (world : World) (path : String) : Except String String × World :=
  let (read, world) := world.ask (Host.read path)
  (read.bind textOf, world)

/-- Runs a command and gives what it writes, or nil where the shell cannot be started. -/
def runCommand (world : World) (command : String) : Value × World :=
  let (written, world) := world.ask (Host.run command)
  (.ofText? (written.toOption.map Text.decodeLossy), world)

/-- The nanoseconds of a second. -/
def nanosPerSecond : Nat := 1000000000

/-- A time since the epoch in seconds, with a fraction. A time before the epoch counts as none. -/
def secondsOf : (time : Int) → Float
  | .ofNat elapsed =>
    (elapsed / nanosPerSecond).toFloat + (elapsed % nanosPerSecond).toFloat / nanosPerSecond.toFloat
  | .negSucc _ => 0

/-- The time of day. -/
def readClock (world : World) : Value × World :=
  let (time, world) := world.ask Host.now
  (.number (secondsOf time), world)

/-- The longest wait, in seconds, that is not possible any more. -/
def waitLimit : Float := 18446744073709551616

/-- Waits for some seconds, if that is possible: a negative, endless or meaningless wait is not. -/
def wait (world : World) (seconds : Option Float) : Value × World :=
  match seconds with
  | some seconds =>
    if 0 ≤ seconds && seconds < waitLimit then
      (.bool true, { world with host := Host.wait seconds world.host })
    else (.bool false, world)
  | none => (.bool false, world)

/-- The seconds that a value stands for: a number itself, or the number that its text spells. -/
def seconds? : Value → Option Float
  | .number seconds => some seconds
  | value => Number.ofText? value.display

/-- The next line of the input. -/
def readLine (world : World) : Option String × World :=
  let (line, input) := world.input.readLine
  (line, { world with input })

end World

/-- Calls a native function. -/
def Native.call (builtin : Native) (arguments : List Value) (world : World) : Value × World :=
  match builtin, arguments with
  | newFile, [path] => world.change (Host.create path.display)
  | getFile, [path] =>
    let (text, world) := world.readText path.display
    (.ofText? text.toOption, world)
  | deleteFile, [path] => world.change (Host.remove path.display)
  | writeFile, [path, contents] =>
    world.change (Host.write path.display (Text.encode contents.display))
  | runCommand, [command] => world.runCommand command.display
  | time, [] => world.readClock
  | sleep, [seconds] => world.wait (World.seconds? seconds)
  | input, [] =>
    let (line, world) := world.readLine
    (.ofText? line, world)
  | typeOf, [value] => (.text value.typeName, world)
  | number, [value] => (value.toNumber, world)
  | string, [value] => (.text value.display, world)
  | bool, [value] => (value.toBool, world)
  | _, _ => (.nil, world)

end Scriptlet
