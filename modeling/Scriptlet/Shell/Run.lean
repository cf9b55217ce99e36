import Scriptlet.Shell.Calling
import Scriptlet.Shell.Tool

/-!
# Running commands

A command changes the state, of which the system with its files and open streams is shared. The
members of a pipeline, bodies between parentheses and commands whose answer is asked for run in a
state of their own. A command that is tested may fail without ending the command line. `bound`
limits how deep commands nest and how often loops repeat.
-/

namespace Scriptlet.Shell

/-- A line that shows a command. -/
def traceText (front : String) (words : List String) : String :=
  front ++ " ".intercalate words ++ "\n"

/-- Arguments without two signs in front of them. -/
def behindSigns (arguments : List String) : List String :=
  if arguments.head? = some "--" then arguments.drop 1 else arguments

/-- Whether a signal does nothing unless there is a trap for it. -/
def isHarmless (signal : Nat) : Bool :=
  signal = 0 || ["CHLD", "CONT", "URG", "WINCH"].contains (signalNames[signal]?.getD "")

/-- Whether no trap can be set for a signal. -/
def isInevitable (signal : Nat) : Bool :=
  ["KILL", "STOP"].contains (signalNames[signal]?.getD "")

namespace State

/-- The state behind the work of a tool. -/
def withTool (state : State) (arguments : List String)
    (body : List String → Working Unit) : State :=
  let input := state.waiting 0
  let start : Work := ⟨state.place, input, state.windsBack 0, state.environment, [], 0⟩
  let (_, work) := (body arguments).run start
  let state := (state.advance 0 (input.length - work.input.length)).withPlace work.place
  let state := work.writes.reverse.foldl (fun (state : State) write =>
    (state.writeTo (if write.1 then 2 else 1) write.2).2) state
  { state with status := work.status % 256 }

/-- The state in which a launched command runs. -/
def launching (state : State) (launch : Launch) : State :=
  let own := state.bindings.filter fun entry => !entry.isExported
  let handedOn := launch.environment.map fun (name, value) =>
    (⟨name, some value, true, false⟩ : Variable)
  let usual : Variable := ⟨"PATH", some "/bin:/usr/bin", false, false⟩
  let others := (usual :: own.filter (·.name != "PATH")).filter fun entry =>
    !handedOn.any (·.name == entry.name)
  let state := { state with bindings := handedOn ++ others }
  if launch.sharesInput then state
  else state.connect 0 (.file Place.nowhere 0 true false false)

end State

mutual

/-- What a command writes, run in a state of its own. -/
def answer (bound : Nat) (body : Command) (state : State) : Octets × State :=
  match bound with
  | 0 => ([], state.exit troubleStatus)
  | bound + 1 =>
    let (number, system) := state.system.addOutlet (.collector [])
    let own := ({ state with system }.apart).connectTo 1 number
    let inner := finish bound (runCommand bound false body own)
    let octets := inner.system.collected number
    let system := inner.system.setOutlet number (.supply [])
    (octets, { state.leave { inner with system } with
      status := state.status, answered := inner.status % 256 })

/-- The words that a command is called with. Behind some names assignments are no fields. -/
def calledWords (bound : Nat) (words : List Word) (state : State) : List String × State :=
  match bound with
  | 0 => ([], state.exit troubleStatus)
  | bound + 1 =>
    words.foldl (fun (fields, state) word =>
      if !state.goesOn then (fields, state)
      else
        match if Calling.takesAssignments state fields then assignment? word else none with
        | some (name, value) =>
          let (text, state) := state.textOf bound (answer bound) true value
          (fields ++ [name ++ "=" ++ text], state)
        | none =>
          let (more, state) := state.fieldsOf bound (answer bound) word
          (fields ++ more, state)) ([], state)

/-- The connections that redirections ask for. -/
def connections (bound : Nat) (streams : List Redirection) (state : State) :
    List Connection × State :=
  match bound with
  | 0 => ([], state.exit troubleStatus)
  | bound + 1 =>
    streams.foldl (fun (found, state) stream =>
      if !state.goesOn then (found, state)
      else
        match stream with
        | .document descriptor number => (found ++ [.document descriptor number], state)
        | .named descriptor direction target =>
          let (text, state) := state.textOf bound (answer bound) false target
          let isCopy := direction = .copyOutput || direction = .copyInput
          let state :=
            if state.goesOn && isCopy && text != "-" && !(text.length = 1 && (count? text).isSome)
            then state.giveUp "Syntax error: Bad fd number" else state
          (found ++ [.named descriptor direction text], state)) ([], state)

/-- Connects streams one after the other, and tells whether that was possible. -/
def connectAll (bound : Nat) (wanted : List Connection) (state : State) : Bool × State :=
  match bound with
  | 0 => (false, state.exit troubleStatus)
  | bound + 1 =>
    wanted.foldl (fun (connected, state) connection =>
      if !connected then (false, state)
      else
        match connection with
        | .document descriptor number =>
          let word := state.documents[number]?.getD []
          let (text, state) := state.documentOf bound (answer bound) word
          if state.goesOn then (true, state.connect descriptor (.supply text.toList))
          else (false, state.recovered)
        | .named descriptor direction target =>
          match state.connectNamed descriptor direction target with
          | .ok state => (true, state)
          | .error message => (false, state.complain message)) (true, state)

/-- Gives variables their values one after the other. They are local to a command that has a frame
of its own. The texts of the assignments are given as well. -/
def assignAll (bound : Nat) (framed handsOn : Bool) (assignments : List Word) (state : State) :
    List String × State :=
  match bound with
  | 0 => ([], state.exit troubleStatus)
  | bound + 1 =>
    assignments.foldl (fun (texts, state) word =>
      match state.goesOn, assignment? word with
      | true, some (name, value) =>
        let (text, state) := state.textOf bound (answer bound) true value
        if !state.goesOn then (texts, state)
        else
          let state := if framed then state.makeLocal name else state
          let state := state.assign name text
          let state := if framed || handsOn then state.handOn name else state
          (texts ++ [name ++ "=" ++ text], state)
      | _, _ => (texts, state)) ([], state)

/-- Shows a command where its errors go. -/
def trace (bound : Nat) (streams : List (Nat × Nat)) (words : List String) (state : State) :
    State :=
  match bound with
  | 0 => state
  | bound + 1 =>
    if !state.has 'x' then state
    else
      let quiet := { state with options := state.options.filter (· != 'x') }
      let front := state.value "PS4"
      let (text, after) := match documentWord? front.toList with
        | some word => quiet.documentOf bound (answer bound) word
        | none => (front, quiet)
      let shown := { after with streams }.mention (traceText text words)
      { shown with streams := state.streams, options := state.options }

/-- Runs a simple command. -/
def runSimple (bound : Nat) (tested : Bool) (line : Nat) (assignments words : List Word)
    (streams : List Redirection) (state : State) : State :=
  match bound with
  | 0 => state.exit troubleStatus
  | bound + 1 =>
    let state := { state.onLine line with answered := 0 }
    let (fields, state) := calledWords bound words state
    let (wanted, state) :=
      if state.goesOn then connections bound streams state else ([], state)
    if !state.goesOn then state
    else
      let calling := Calling.ofFields state fields
      let before := state.streams
      let descriptors := wanted.map (·.descriptor)
      let (connected, state) := connectAll bound wanted state
      if !connected then
        let state := state.restoreStreams before descriptors
        if calling.isGrave then { state.exit troubleStatus with course := .failing }
        else state.withStatus troubleStatus
      else
        let isExec := calling.fields.head? = some "exec"
        let handsOn := isExec && calling.fields.length > 1
        let state :=
          if calling.isFramed then { state with frames := ([], none) :: state.frames } else state
        let (texts, state) := assignAll bound calling.isFramed handsOn assignments state
        let state := if state.goesOn then trace bound before (texts ++ fields) state else state
        let after :=
          if !state.goesOn then state
          else if fields.isEmpty then state.withStatus state.answered
          else runCalling bound tested calling state
        let after := if calling.isGrave then after else if fields.head? = some "command" then
          after.recovered else after
        let after := if isExec then after else after.restoreStreams before descriptors
        if calling.isFramed && !after.hasEnded then after.leaveFrame else after

/-- Runs what some words call. -/
def runCalling (bound : Nat) (tested : Bool) (calling : Calling) (state : State) : State :=
  match bound with
  | 0 => state.exit troubleStatus
  | bound + 1 =>
    match calling.fields with
    | [] => state
    | name :: arguments =>
      let function? := if calling.asideFunctions then none else state.functions.lookup name
      match function?, builtin? name with
      | some (line, body), _ => runFunction bound tested line body arguments state
      | none, some action =>
        match action { state with speaker := name } arguments with
        | .ok after => { after with speaker := state.speaker }
        | .error message =>
          let after := { state with speaker := name }.complain message
          let after := { after with speaker := state.speaker, status := troubleStatus }
          if calling.isGrave then { after.exit troubleStatus with course := .failing } else after
      | none, none =>
        match name with
        | "eval" =>
          let text := " ".intercalate arguments
          let after := runText bound tested text.toList { state with speaker := name }
          { after with speaker := state.speaker }
        | "." => runFile bound (behindSigns arguments) state
        | "exec" => replace bound (behindSigns arguments) state
        | "command" =>
          match lettersOf "pvV" arguments with
          | .ok (letters, names) =>
            if letters.contains 'v' || letters.contains 'V' then
              tellCommands state name (!letters.contains 'V') (names.take 1)
            else state.withStatus 0
          | .error message =>
            let after := { state with speaker := name }.complain message
            { after with speaker := state.speaker, status := troubleStatus }
        | name => runProgram bound name arguments state

/-- Runs a function with arguments. -/
def runFunction (bound : Nat) (tested : Bool) (line : Nat) (body : Command)
    (arguments : List String) (state : State) : State :=
  match bound with
  | 0 => state.exit troubleStatus
  | bound + 1 =>
    let inner := runCommand bound tested body
      { state with
        arguments, depth := 0, functionLine := line, optionIndex := 1, optionOffset := 0 }
    { inner.absorbed with
      arguments := state.arguments
      depth := state.depth
      functionLine := state.functionLine
      optionIndex := state.optionIndex
      optionOffset := state.optionOffset }

/-- Runs the commands in a file. -/
def runFile (bound : Nat) (arguments : List String) (state : State) : State :=
  match bound with
  | 0 => state.exit troubleStatus
  | bound + 1 =>
    let quit (message : String) : State := { state with speaker := "." }.giveUp message
    match arguments with
    | [] => state.withStatus 0
    | name :: _ =>
      let paths :=
        if name.toList.contains '/' then [name]
        else ((state.value "PATH").splitOn ":").map fun folder =>
          if folder = "" then name else folder ++ "/" ++ name
      let isHere (path : String) := name.toList.contains '/' || state.place.hasFile (spelled path)
      match paths.find? isHere with
      | none => quit (name ++ ": not found")
      | some path =>
        match state.place.read (spelled path) with
        | .error _ => quit ("cannot open " ++ path ++ ": No such file")
        | .ok octets =>
          let after := runText bound false octets { state with speaker := path }
          { after.absorbed with speaker := state.speaker }

/-- Runs a program in the place of the command line. -/
def replace (bound : Nat) (arguments : List String) (state : State) : State :=
  match bound with
  | 0 => state.exit troubleStatus
  | bound + 1 =>
    match arguments with
    | [] => state.withStatus 0
    | name :: arguments =>
      match state.program (state.value "PATH") name with
      | .error (status, message) =>
        ({ state with speaker := "exec" }.complain message).exit status
      | .ok _ =>
        let after := runProgram bound name arguments state
        { after with traps := [] }.exit after.status

/-- Runs a program. -/
def runProgram (bound : Nat) (name : String) (arguments : List String) (state : State) : State :=
  match bound with
  | 0 => state.exit troubleStatus
  | bound + 1 =>
    match state.program (state.value "PATH") name with
    | .error (status, message) => (state.complain message).withStatus status
    | .ok (.script path) => runLine bound (path :: arguments) state
    | .ok (.tool "sh") => runLine bound arguments state
    | .ok (.tool tool) =>
      let input := state.waiting 0
      match launch? tool state.environment input arguments, tool? tool with
      | some (.error (status, message)), _ => (state.mention (message ++ "\n")).withStatus status
      | some (.ok launch), _ =>
        let state := if launch.sharesInput then state else state.advance 0 input.length
        let (own, statuses) := launch.commands.foldl (fun (own, statuses) command =>
          match command with
          | name :: arguments =>
            let own := runProgram bound name arguments own
            (own, statuses ++ [own.status])
          | [] => (own, statuses)) (state.launching launch, [])
        { state with system := own.system, status := launch.status statuses }
      | none, some body => state.withTool arguments body
      | none, none => (state.complain (name ++ ": not found")).withStatus unknownStatus

/-- Runs another command line. -/
def runLine (bound : Nat) (arguments : List String) (state : State) : State :=
  match bound with
  | 0 => state.exit troubleStatus
  | bound + 1 =>
    let fresh := { state.other "sh" [] with errorLine := 0 }
    match LineCall.ofArguments (arguments.length + 1) [] false arguments with
    | .error message => state.leave ((fresh.complain message).withStatus troubleStatus)
    | .ok call =>
      let own := { state.other call.name call.arguments with options := call.options }
      let run (octets : Octets) (own : State) : State :=
        state.leave (finish bound (runText bound false octets own))
      match call.script with
      | .text text => run text.toList own
      | .input =>
        let octets := own.waiting 0
        run octets (own.advance 0 octets.length)
      | .file path =>
        match state.place.read (spelled path) with
        | .ok octets => run octets own
        | .error _ =>
          let complaint := "cannot open " ++ path ++ ": No such file"
          state.leave ((fresh.complain complaint).withStatus troubleStatus)

/-- Runs one body for each of some values of a variable. -/
def runEach (bound : Nat) (tested : Bool) (name : String) (body : Command)
    (values : List String) (state : State) : State :=
  match bound with
  | 0 => state.exit troubleStatus
  | bound + 1 =>
    match values with
    | [] => state
    | value :: rest =>
      let state := state.assign name value
      if !state.goesOn then state
      else
        let (goesOn, state) := (runCommand bound tested body state).afterRound
        if goesOn then runEach bound tested name body rest state else state

/-- Runs a body as long as a condition ends as it should. `status` is that of the last round. -/
def runLoop (bound : Nat) (tested goal : Bool) (condition body : Command) (status : Nat)
    (state : State) : State :=
  match bound with
  | 0 => state.exit troubleStatus
  | bound + 1 =>
    let state := runCommand bound true condition state
    if !state.goesOn then
      let (goesOn, after) := state.afterRound
      if goesOn then runLoop bound tested goal condition body status after
      else if after.goesOn then after.withStatus status
      else after
    else if decide (state.status = 0) = goal then
      let (goesOn, state) := (runCommand bound tested body state).afterRound
      if goesOn then runLoop bound tested goal condition body state.status state else state
    else state.withStatus status

/-- Runs the first arm with a pattern that covers a text. -/
def runArm (bound : Nat) (tested : Bool) (subject : String)
    (arms : List (List Word × Command)) (state : State) : State :=
  match bound with
  | 0 => state.exit troubleStatus
  | bound + 1 =>
    match arms with
    | [] => state.withStatus 0
    | ([], _) :: rest => runArm bound tested subject rest state
    | (word :: words, body) :: rest =>
      let (pattern, state) := state.patternOf bound (answer bound) word
      if !state.goesOn then state
      else if pattern.covers subject.toList then
        match body with
        | .nothing => state.withStatus 0
        | body => runCommand bound tested body state
      else runArm bound tested subject ((words, body) :: rest) state

/-- Runs commands one after the other, each with what the one before it has written as its
input. -/
def runPipeline (bound : Nat) (tested : Bool) (commands : List Command) (input? : Option Octets)
    (state : State) : State :=
  match bound with
  | 0 => state.exit troubleStatus
  | bound + 1 =>
    let begun := match input? with
      | some octets => state.apart.connect 0 (.supply octets)
      | none => state.apart
    match commands with
    | [] => state
    | [last] => state.leave (finish bound (runCommand bound tested last begun))
    | first :: rest =>
      let (number, system) := begun.system.addOutlet (.collector [])
      let own := { begun with system }.connectTo 1 number
      let inner := finish bound (runCommand bound tested first own)
      let octets := inner.system.collected number
      let system := inner.system.setOutlet number (.supply [])
      runPipeline bound tested rest (some octets) (state.leave { inner with system })

/-- Runs a command. -/
def runCommand (bound : Nat) (tested : Bool) (command : Command) (state : State) : State :=
  match bound with
  | 0 => state.exit troubleStatus
  | bound + 1 =>
    let state := heed bound state
    if state.has 'n' || !state.goesOn then state
    else
      heed bound <|
        match command with
        | .nothing => state
        | .simple line assignments words streams =>
          (runSimple bound tested line assignments words streams state).checked tested
        | .pipeline commands => (runPipeline bound tested commands none state).checked tested
        | .negated body =>
          let after := runCommand bound true body state
          if after.hasEnded then after else after.withStatus (if after.status = 0 then 1 else 0)
        | .andThen left right =>
          let after := runCommand bound true left state
          if after.status = 0 then runCommand bound tested right after else after
        | .orElse left right =>
          let after := runCommand bound true left state
          if after.status = 0 then after else runCommand bound tested right after
        | .sequence first second =>
          runCommand bound tested second (runCommand bound tested first state)
        | .background body =>
          let own := state.apart.connect 0 (.file Place.nowhere 0 true false false)
          let inner := finish bound (runCommand bound false body own)
          let job : Job := ⟨ownNumber + 1 + state.jobs.length, inner.status % 256⟩
          { state.leave inner with status := 0, jobs := job :: state.jobs }
        | .apart line body streams =>
          let (wanted, state) := connections bound streams (state.onLine line)
          if !state.goesOn then state
          else
            let (connected, own) := connectAll bound wanted state.apart
            let inner := if connected then runCommand bound tested body own
              else own.exit troubleStatus
            (state.leave (finish bound inner)).checked tested
        | .connected line body streams =>
          let (wanted, state) := connections bound streams (state.onLine line)
          if !state.goesOn then state
          else
            let (connected, inner) := connectAll bound wanted state
            let after := if connected then runCommand bound tested body inner
              else inner.withStatus troubleStatus
            after.restoreStreams state.streams (wanted.map (·.descriptor))
        | .branch condition positive negative =>
          let after := runCommand bound true condition state
          if !after.goesOn then after
          else if after.status = 0 then runCommand bound tested positive after
          else
            match negative with
            | .nothing => after.withStatus 0
            | negative => runCommand bound tested negative after
        | .choose line subject arms =>
          let (text, state) := (state.onLine line).textOf bound (answer bound) false subject
          if state.goesOn then runArm bound tested text arms state else state
        | .loop goal condition body =>
          let after :=
            runLoop bound tested goal condition body 0 { state with depth := state.depth + 1 }
          { after with depth := state.depth }
        | .each line name words body =>
          let (values, state) := (state.onLine line).allFieldsOf bound (answer bound) words
          if !state.goesOn then state
          else
            let after := runEach bound tested name body values
              { state with status := 0, depth := state.depth + 1 }
            { after with depth := state.depth }
        | .define line name body =>
          let others := state.functions.filter (·.1 != name)
          { state with functions := (name, line, body) :: others, status := 0 }

/-- Does what is to be done at signals that have arrived. -/
def heed (bound : Nat) (state : State) : State :=
  match bound with
  | 0 => state
  | bound + 1 =>
    match state.signals with
    | [] => state
    | signal :: rest =>
      if !state.goesOn || !state.heedsSignals then state
      else
        let state := { state with signals := rest }
        let action? := if isInevitable signal then none else state.traps.lookup signal
        match action? with
        | some "" => heed bound state
        | some action =>
          let status := state.kept?.getD state.status
          let after := runText bound false action.toList { state with kept? := some status }
          let after := { after with kept? := state.kept?.map fun _ => after.status }
          if after.goesOn then heed bound { after with status, kept? := state.kept? } else after
        | none =>
          if isHarmless signal then heed bound state
          else { state with traps := [] }.exit (128 + signal)

/-- Does what is to be done at the end. -/
def finish (bound : Nat) (state : State) : State :=
  match bound with
  | 0 => state
  | bound + 1 =>
    match state.traps.lookup 0 with
    | none => state
    | some action =>
      let others := state.traps.filter (·.1 != 0)
      let after := runText bound false action.toList
        { state with traps := others, course := .onward, kept? := some state.status }
      { after with status := after.kept?.getD after.status }

/-- Runs the commands that a text spells. -/
def runText (bound : Nat) (tested : Bool) (text : Octets) (state : State) : State :=
  match bound with
  | 0 => state.exit troubleStatus
  | bound + 1 =>
    runLines bound tested (Source.ofOctets text 1 state.aliases state.documents.size) 0 state

/-- Runs the commands of a source line by line. `status` is that of the last ones. -/
def runLines (bound : Nat) (tested : Bool) (source : Source) (status : Nat) (state : State) :
    State :=
  match bound with
  | 0 => state.exit troubleStatus
  | bound + 1 =>
    match readLine? { source with
        aliases := state.aliases, documents := [], count := state.documents.size } with
    | .error trouble => { state with errorLine := trouble.line }.giveUp trouble.message
    | .ok (none, _) => state.withStatus status
    | .ok (some command, source) =>
      let state := { state with documents := state.documents ++ source.documents.reverse }
      match command with
      | .nothing => runLines bound tested source status state
      | command =>
        let state := runCommand bound tested command state
        if state.goesOn then runLines bound tested source state.status state else state

end

/-- A bound above all that a command can reach in practice. -/
def ampleBound : Nat := 1000000

/-- What a command writes to its output, and the files that it leaves behind. A command with a NUL
in it cannot be run. -/
def run (place : Place) (command : String) : Option (List UInt8) × Place :=
  let octets := Octets.ofText command
  if octets.contains '\x00' then (none, place)
  else
    let state := finish ampleBound (runText ampleBound false octets (State.fresh place))
    (some (state.system.collected 1).toBytes, state.system.place place.here)

end Scriptlet.Shell
