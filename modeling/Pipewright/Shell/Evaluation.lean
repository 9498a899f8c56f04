import Pipewright.Shell.Arithmetic
import Pipewright.Shell.Field
import Pipewright.Shell.Reader
import Pipewright.Text.Blank

set_option autoImplicit false

/-! # Evaluating scripts

`Evaluation.evaluate` runs a command of a script, `spawn` a program. Fuel bounds how deep commands
nest and how often loops go round; a run that uses it up counts as endless.

* A program is a file that can be executed: a utility, or a script that names its interpreter.
* `killed` reaches the program with the given process number and ends it. -/

namespace Pipewright.Shell

/-- What the file of a utility begins with. -/
def utilityMark : Bytes := 0x7F :: Text.Utf8.encode "ELF"

/-- The file of a utility. -/
def utilityFile (name : String) : Node := .file (utilityMark ++ Text.Utf8.encode name) true

/-- What a file that can be executed is. -/
inductive Image where
  | utility (name : String)
  /-- A script, with the interpreter that its first line names and what it gives to it. -/
  | script (interpreter : String) (argument : Option String)

/-- The words of the first line of a script. -/
def interpreterOf (line : List Char) : Option (String × Option String) :=
  let isBlank := fun (c : Char) => c = ' ' || c = '\t'
  let line := line.dropWhile isBlank
  let path := line.takeWhile (!isBlank ·)
  let rest := ((line.dropWhile (!isBlank ·)).dropWhile isBlank).reverse.dropWhile isBlank
  if path = [] then none
  else some (String.ofList path, if rest = [] then none else some (String.ofList rest.reverse))

/-- What the content of a file is as a program. -/
def Image.ofContent? (content : Bytes) : Option Image :=
  if utilityMark.isPrefixOf content then
    some (.utility (Text.Utf8.decodeLossy (content.drop utilityMark.length)))
  else
    match (Text.Utf8.decodeLossy (content.takeWhile (· ≠ 10))).toList with
    | '#' :: '!' :: line => (interpreterOf line).map fun (path, argument) => .script path argument
    | _ => none

/-- The image that a path names. -/
def image (path : Path) : Run (Except Errno Image) := do
  match ← Utility.stat path with
  | .error e => return .error e
  | .ok (.file content true) =>
    match Image.ofContent? content with
    | some image => return .ok image
    | none => return .error .notExecutable
  | .ok _ => return .error .denied

/-- The error of executing a path, which may lie with an interpreter, of which a few may follow each
    other. -/
def refusal : Nat → Path → Run (Option Errno)
  | 0, _ => return some .tooManyLinks
  | fuel + 1, path => do
    match ← image path with
    | .error e => return some e
    | .ok (.utility _) => return none
    | .ok (.script interpreter _) => refusal fuel interpreter

/-- The first path of a program in some directories; one that may not be executed is passed over,
    but remembered. -/
def search (program : String) (refused : Bool) : List String → Run (Except Errno Path)
  | [] => return .error (if refused then .denied else .absent)
  | directory :: rest => do
    let path := Path.join directory program
    match ← Utility.stat path with
    | .ok (.file _ true) => return .ok path
    | .ok _ => search program true rest
    | .error _ => search program refused rest

/-- The directories of a list with colons between them. -/
def searchList (text : String) : List String :=
  (text.toList.splitOn ':').map fun piece => if piece = [] then "." else String.ofList piece

/-- The path of a program. -/
def programPath (program : String) : Run (Except Errno Path) := do
  if program = "" then return .error .absent
  else if program.toList.contains '/' then return .ok program
  else if FileSystem.nameLimit < program.utf8ByteSize then return .error .nameTooLong
  else search program false (searchList ((← Run.valueOf? "PATH").getD ""))

/-- The number by which a script knows how a program ended. -/
def statusCode : ExitStatus → Nat
  | .exited code => code
  | .signaled signal => 128 + signal

/-- Makes the frame that of a new program. -/
def enterProgram (pid parent : Nat) (environment : Dictionary String) : Run Unit :=
  Run.modifyFrame fun frame =>
    { frame with
      pid, parent
      bindings := (Dictionary.insert "PPID" (toString parent)
        (Dictionary.insert "PWD" (FileSystem.locationPath frame.directory) environment))
      exported := "PWD" :: environment.map (·.1)
      arguments := [], functions := [], traps := [], status := 0, takenStatus := 0
      failsFast := false, failsOnUnset := false }

/-- Runs a program under its process number, up to its end. -/
def asProgram (pid : Nat) (run : Run Nat) : Run ExitStatus :=
  tryCatch (ExitStatus.exited <$> run) fun
    | .exited code | .returned code => return .exited code
    | .broken _ | .continued _ => return .exited 0
    | .killed target signal =>
      if target = pid then return .signaled signal else throw (.killed target signal)
    | .endless => throw .endless

/-- Runs steps that can neither change the frame nor end more than themselves. -/
def asSubshell (run : Run Unit) : Run Nat := Run.isolated do
  tryCatch (do run; return (← Run.frame).status) fun
    | .exited code | .returned code => return code
    | .broken _ | .continued _ => return (← Run.frame).status
    | stop => throw stop

/-- Splits an argument such as `name=value`. -/
def splitAssignment (argument : String) : String × Option String :=
  let cs := argument.toList
  match cs.dropWhile (· ≠ '=') with
  | [] => (argument, none)
  | _ :: value => (String.ofList (cs.takeWhile (· ≠ '=')), some (String.ofList value))

/-- The name under which the action on a signal is kept. -/
def trapName (name : String) : String :=
  if name = "EXIT" || name = "0" then "EXIT"
  else toString ((signalNumber? name).getD 0)

/-- Signals that end no program. -/
def harmlessSignals : List Nat := [17, 18, 23, 28]

/-- The signal and the process numbers of a call of `kill`. -/
def killArguments : List String → Option Nat × List String
  | "-s" :: name :: rest => (signalNumber? name, rest)
  | "-n" :: name :: rest => (signalNumber? name, rest)
  | first :: rest =>
    match first.toList with
    | '-' :: name =>
      if name = ['-'] then (some 15, rest) else (signalNumber? (String.ofList name), rest)
    | _ => (some 15, first :: rest)
  | [] => (some 15, [])

/-- Switches the options that letters stand for. -/
def setLetters (isOn : Bool) (letters : List Char) : Run Unit := Run.modifyFrame fun frame =>
  { frame with
    failsFast := if letters.contains 'e' then isOn else frame.failsFast
    failsOnUnset := if letters.contains 'u' then isOn else frame.failsOnUnset }

/-- The letters of the options that are given by name. -/
def optionLetters : String → List Char
  | "errexit" => ['e']
  | "nounset" => ['u']
  | _ => []

/-- Reads the command line of a shell: sets its options and gives the text to run, if it is given,
    and the operands. -/
def readArguments : List String → Run (Option String × List String)
  | [] => return (none, [])
  | first :: rest => do
    match first.toList with
    | '-' :: c :: letters =>
      setLetters true (c :: letters)
      if c = 'c' || letters.contains 'c' then return (rest.head?, rest.drop 1)
      else readArguments rest
    | _ => return (none, first :: rest)

/-- Sets the options of a running shell; the rest replaces its arguments. -/
def setOptions : List String → Run Unit
  | [] => return
  | "--" :: rest => Run.modifyFrame fun frame => { frame with arguments := rest }
  | "-o" :: option :: rest => do
    setLetters true (optionLetters option)
    setOptions rest
  | "+o" :: option :: rest => do
    setLetters false (optionLetters option)
    setOptions rest
  | first :: rest => do
    match first.toList with
    | '-' :: letters => do
      setLetters true letters
      setOptions rest
    | '+' :: letters => do
      setLetters false letters
      setOptions rest
    | _ => Run.modifyFrame fun frame => { frame with arguments := first :: rest }

/-- The number that a command of the shell is given; what is no number ends the shell. -/
def numberArgument (command : String) (fallback : Nat) (arguments : List String) : Run Nat := do
  match arguments with
  | [] => return fallback
  | first :: _ =>
    match readNat? first with
    | some n => return n
    | none =>
      Run.complainHere (command ++ ": Illegal number: " ++ first)
      throw (.exited 2)

/-- Gives a line of the input to variables, the last of which takes what is left. -/
def assignFields : List String → List Char → Run Unit
  | [], _ => return
  | [name], cs => Run.assign name (Pipewright.Text.trim (String.ofList cs))
  | name :: rest, cs => do
    let isBlank := fun (c : Char) => c = ' ' || c = '\t'
    let cs := cs.dropWhile isBlank
    Run.assign name (String.ofList (cs.takeWhile (!isBlank ·)))
    assignFields rest (cs.dropWhile (!isBlank ·))

/-- Reads a line of the input. -/
def readLine (arguments : List String) : Run Unit := do
  let names := arguments.filter fun name => name.toList.head? ≠ some '-'
  let input := (← Run.frame).input
  let line := input.takeWhile (· ≠ 10)
  Run.modifyFrame fun frame => { frame with input := input.drop (line.length + 1) }
  assignFields names (Text.Utf8.decodeLossy line).toList
  Run.setStatus (if line.length < input.length then 0 else 1)

/-- The value of a parameter, if it has one. -/
def parameter? (name : String) : Run (Option String) := do
  let frame ← Run.frame
  if name = "?" then return some (toString frame.status)
  else if name = "$" then return some (toString frame.pid)
  else if name = "#" then return some (toString frame.arguments.length)
  else if name = "0" then return some frame.name
  else if name = "@" || name = "*" then return some (" ".intercalate frame.arguments)
  else if name = "-" then return some ""
  else if name.toList.all Char.isDigit then return frame.arguments[digitsNat name.toList - 1]?
  else Run.valueOf? name

/-- Where a descriptor leads after a redirection of output to a path. -/
def openOutput (appends : Bool) (path : String) : Run (Except Errno Sink) := do
  let files ← Run.files
  let directory := (← Run.frame).directory
  let written : Except Errno FileSystem :=
    match files.stat directory path with
    | .ok .device => .ok files
    | .ok (.file content _) => files.write directory path (if appends then content else [])
    | _ => files.write directory path []
  match written with
  | .error e => return .error e
  | .ok files =>
    Run.setFiles files
    match files.locate true directory path with
    | .ok (location, some (.file ..)) => return .ok (.file location)
    | _ => return .ok .nowhere

/-- Makes a descriptor lead somewhere. -/
def setSink (descriptor : Nat) (sink : Sink) : Run Unit :=
  Run.modifyFrame fun frame => { frame with sinks := (descriptor, sink) :: frame.sinks }

namespace Evaluation

mutual

/-- The cells of a part of a word. -/
def part (splits : Bool) : Nat → Part → Run (List Cell)
  | 0, _ => throw .endless
  | _ + 1, .text text isQuoted =>
    return if isQuoted then Cell.ofText true text else text.toList.map (.char · false)
  | fuel + 1, .output command isQuoted => do
    let (bytes, status) ← Run.isolated do
      let bytes ← Run.collecting do
        Run.setStatus (← asSubshell (evaluate false fuel command))
      return (bytes, (← Run.frame).status)
    Run.modifyFrame fun frame => { frame with takenStatus := status }
    let text := (Text.Utf8.decodeLossy bytes).toList.reverse.dropWhile (· = '\n')
    return Cell.ofValue splits isQuoted (String.ofList text.reverse)
  | fuel + 1, .arithmetic expression isQuoted => do
    let text := Cell.text (← word false fuel expression)
    let bindings := (← Run.frame).bindings
    let valueOf := fun (name : String) =>
      ((Dictionary.get? name bindings).bind readInt?).getD 0
    match Arithmetic.value valueOf text with
    | .ok n => return Cell.ofValue splits isQuoted (toString n)
    | .error fault =>
      Run.complainHere ("arithmetic expression: " ++ fault.message ++ ": \"" ++ text ++ "\"")
      throw (.exited 2)
  | fuel + 1, .parameter name use argument isQuoted => do
    let arguments := (← Run.frame).arguments
    if name = "@" && use = .value then return Cell.ofValues splits isQuoted arguments
    if name = "*" && use = .value && !isQuoted then
      return Cell.ofValues splits false arguments
    let value ← parameter? name
    if value.isNone && use.needsValue && (← Run.frame).failsOnUnset then
      Run.complainHere (name ++ ": parameter not set")
      throw (.exited 2)
    let given := fun (emptyIsMissing : Bool) =>
      value.filter fun text => !(emptyIsMissing && text = "")
    let cells := fun (text : String) => Cell.ofValue splits isQuoted text
    match use with
    | .value => return cells (value.getD "")
    | .length => return cells (toString (value.getD "").length)
    | .orElse emptyIsMissing =>
      match given emptyIsMissing with
      | some text => return cells text
      | none => word splits fuel argument
    | .orAssign emptyIsMissing =>
      match given emptyIsMissing with
      | some text => return cells text
      | none =>
        let text := Cell.text (← word false fuel argument)
        Run.assign name text
        return cells text
    | .orFail emptyIsMissing =>
      match given emptyIsMissing with
      | some text => return cells text
      | none =>
        let text := Cell.text (← word false fuel argument)
        Run.complainHere (name ++ ": " ++ (if text = "" then "parameter not set" else text))
        throw (.exited 2)
    | .ifThere emptyIsMissing =>
      match given emptyIsMissing with
      | some _ => word splits fuel argument
      | none => return if isQuoted then [.nothing] else []
    | .cutStart longest =>
      let glyphs := Glyph.ofMarked (Cell.marked (← word false fuel argument))
      return cells (String.ofList (Glyph.cutStart longest glyphs (value.getD "").toList))
    | .cutEnd longest =>
      let glyphs := Glyph.ofMarked (Cell.marked (← word false fuel argument))
      return cells (String.ofList (Glyph.cutEnd longest glyphs (value.getD "").toList))
termination_by structural fuel => fuel

/-- The cells of a word. -/
def word (splits : Bool) : Nat → Word → Run (List Cell)
  | 0, _ => throw .endless
  | fuel + 1, parts => return (← parts.mapM (part splits fuel)).flatten
termination_by structural fuel => fuel

/-- The fields of words. -/
def fields : Nat → List Word → Run (List String)
  | 0, _ => throw .endless
  | fuel + 1, words => do
    let cells ← words.mapM (word true fuel)
    let files ← Run.files
    let directory := (← Run.frame).directory
    return cells.flatMap fun cells =>
      (Cell.fields none cells).flatMap (fieldTexts files directory)
termination_by structural fuel => fuel

/-- Redirects descriptors; the status is that of a failure, if one cannot be redirected. -/
def redirect : Nat → List Redirection → Run (Option Nat)
  | 0, _ => throw .endless
  | _ + 1, [] => return none
  | fuel + 1, .mk descriptor direction target :: rest => do
    let text := Cell.text (← word false fuel target)
    let failed ← (do
      match direction with
      | .document =>
        Run.modifyFrame fun frame => { frame with input := Text.Utf8.encode text }
        return false
      | .duplicate =>
        match readNat? text with
        | some source =>
          setSink descriptor (← Run.sink source)
          return false
        | none =>
          setSink descriptor .nowhere
          return false
      | .input =>
        match (← Run.files).read (← Run.frame).directory text with
        | .ok bytes =>
          Run.modifyFrame fun frame => { frame with input := bytes }
          return false
        | .error _ =>
          Run.complainHere ("cannot open " ++ text ++ ": No such file")
          return true
      | .output =>
        match ← openOutput false text with
        | .ok sink =>
          setSink descriptor sink
          return false
        | .error e =>
          Run.complainHere ("cannot create " ++ text ++ ": " ++ e.wording)
          return true
      | .append =>
        match ← openOutput true text with
        | .ok sink =>
          setSink descriptor sink
          return false
        | .error e =>
          Run.complainHere ("cannot create " ++ text ++ ": " ++ e.wording)
          return true)
    if failed then return some 2 else redirect fuel rest
termination_by structural fuel => fuel

/-- Runs steps with descriptors redirected. -/
def redirected : Nat → List Redirection → Run Unit → Run Unit
  | 0, _, _ => throw .endless
  | fuel + 1, changes, run => do
    if changes.isEmpty then run
    else
      let before ← Run.frame
      match ← redirect fuel changes with
      | some status => Run.setStatus status
      | none => run
      Run.modifyFrame fun frame => { frame with sinks := before.sinks, input := before.input }
termination_by structural fuel => fuel

/-- Runs a command; a command that is `tested` may fail. -/
def evaluate (tested : Bool) : Nat → Command → Run Unit
  | 0, _ => throw .endless
  | fuel + 1, command => do
    match command with
    | .simple followingEnds assignments words changes =>
      Run.modifyFrame fun frame => { frame with followingEnds, takenStatus := 0 }
      let texts ← fields fuel words
      match texts with
      | [] =>
        redirected fuel changes do
          for (name, value) in assignments do
            Run.assign name (Cell.text (← word false fuel value))
          Run.setStatus (← Run.frame).takenStatus
      | "exec" :: rest =>
        if rest.isEmpty then
          if let some status ← redirect fuel changes then throw (.exited status)
          Run.setStatus 0
        else redirected fuel changes (replace fuel rest)
      | name :: arguments =>
        redirected fuel changes do
          if assignments.isEmpty then call fuel name arguments
          else
            let before ← Run.frame
            for (variable_, value) in assignments do
              Run.assign variable_ (Cell.text (← word false fuel value))
              Run.export_ variable_
            call fuel name arguments
            Run.modifyFrame fun frame =>
              { frame with bindings := before.bindings, exported := before.exported }
      let frame ← Run.frame
      if frame.failsFast && !tested && frame.status ≠ 0 then throw (.exited frame.status)
    | .sequence commands =>
      if commands.isEmpty then Run.setStatus 0
      for command in commands do evaluate tested fuel command
    | .both first second =>
      evaluate true fuel first
      if (← Run.frame).status = 0 then evaluate tested fuel second
    | .either first second =>
      evaluate true fuel first
      if (← Run.frame).status ≠ 0 then evaluate tested fuel second
    | .negation command =>
      evaluate true fuel command
      Run.setStatus (if (← Run.frame).status = 0 then 1 else 0)
    | .pipeline first second =>
      let bytes ← Run.isolated (Run.collecting do
        Run.setStatus (← asSubshell (evaluate true fuel first)))
      let status ← asSubshell do
        Run.modifyFrame fun frame => { frame with input := bytes }
        evaluate tested fuel second
      Run.setStatus status
    | .background command =>
      let elapsed := (← get).shared.elapsed
      let _ ← asSubshell (evaluate tested fuel command)
      Run.modifyShared fun shared => { shared with elapsed }
      Run.setStatus 0
    | .subshell command =>
      Run.setStatus (← asSubshell (evaluate tested fuel command))
      let frame ← Run.frame
      if frame.failsFast && !tested && frame.status ≠ 0 then throw (.exited frame.status)
    | .redirected command changes => redirected fuel changes (evaluate tested fuel command)
    | .conditional test body otherwise =>
      evaluate true fuel test
      if (← Run.frame).status = 0 then evaluate tested fuel body
      else evaluate tested fuel otherwise
    | .loop test goesOnWhile body => repeatedly tested fuel test goesOnWhile body 0
    | .forEach name words body =>
      let texts ←
        match words with
        | some words => fields fuel words
        | none => do pure (← Run.frame).arguments
      if texts.isEmpty then Run.setStatus 0
      each tested fuel name texts body
    | .choice subject branches =>
      let text := (Cell.text (← word false fuel subject)).toList
      choose tested fuel text branches
    | .define name body =>
      Run.modifyFrame fun frame => { frame with functions := (name, body) :: frame.functions }
      Run.setStatus 0
termination_by structural fuel => fuel

/-- Runs the body of a loop; tells whether the loop goes on. -/
def body (tested : Bool) : Nat → Command → Run Bool
  | 0, _ => throw .endless
  | fuel + 1, command =>
    tryCatch (do evaluate tested fuel command; return true) fun
      | .broken levels => if levels ≤ 1 then return false else throw (.broken (levels - 1))
      | .continued levels => if levels ≤ 1 then return true else throw (.continued (levels - 1))
      | stop => throw stop
termination_by structural fuel => fuel

/-- Runs a loop; its status is that of the last turn. -/
def repeatedly (tested : Bool) : Nat → Command → Bool → Command → Nat → Run Unit
  | 0, _, _, _, _ => throw .endless
  | fuel + 1, test, goesOnWhile, command, last => do
    evaluate true fuel test
    if ((← Run.frame).status = 0) = goesOnWhile then
      if ← body tested fuel command then
        repeatedly tested fuel test goesOnWhile command (← Run.frame).status
    else Run.setStatus last
termination_by structural fuel => fuel

def each (tested : Bool) : Nat → String → List String → Command → Run Unit
  | 0, _, _, _ => throw .endless
  | _ + 1, _, [], _ => return
  | fuel + 1, name, text :: rest, command => do
    Run.assign name text
    if ← body tested fuel command then each tested fuel name rest command
termination_by structural fuel => fuel

/-- Runs the first branch with a pattern that matches. -/
def choose (tested : Bool) : Nat → List Char → List (List Word × Command) → Run Unit
  | 0, _, _ => throw .endless
  | _ + 1, _, [] => Run.setStatus 0
  | fuel + 1, text, (patterns, command) :: rest => do
    let glyphs ← patterns.mapM fun pattern => do
      return Glyph.ofMarked (Cell.marked (← word false fuel pattern))
    if glyphs.any fun pattern => Glyph.isMatch pattern text then evaluate tested fuel command
    else choose tested fuel text rest
termination_by structural fuel => fuel

/-- Calls a function, a command of the shell or a program. -/
def call : Nat → String → List String → Run Unit
  | 0, _, _ => throw .endless
  | fuel + 1, name, arguments => do
    let frame ← Run.frame
    match frame.functions.find? (·.1 == name) with
    | some (_, command) =>
      Run.modifyFrame fun frame => { frame with arguments }
      tryCatch (evaluate false fuel command) fun
        | .returned code => Run.setStatus code
        | stop => throw stop
      Run.modifyFrame fun now => { now with arguments := frame.arguments }
    | none =>
      let number := fun fallback => numberArgument name fallback arguments
      unless name = "eval" || name = "." do Run.setStatus 0
      match name with
      | "exit" => throw (.exited ((← number frame.status) % 256))
      | "return" => throw (.returned ((← number frame.status) % 256))
      | "break" => throw (.broken (← number 1))
      | "continue" => throw (.continued (← number 1))
      | "cd" =>
        let path := (arguments.filter (· ≠ "--")).headD ((← Run.valueOf? "HOME").getD "/")
        match (← Run.files).locate true frame.directory path with
        | .ok (location, some .directory) =>
          Run.modifyFrame fun frame => { frame with directory := location }
          Run.assign "PWD" (FileSystem.locationPath location)
        | _ =>
          Run.complainHere ("cd: can't cd to " ++ path)
          Run.setStatus 2
      | "export" | "readonly" | "local" =>
        for argument in arguments.filter (·.toList.head? ≠ some '-') do
          let (variable_, value) := splitAssignment argument
          if let some value := value then Run.assign variable_ value
          if name = "export" then Run.export_ variable_
      | "unset" =>
        for argument in arguments.filter (·.toList.head? ≠ some '-') do Run.unassign argument
      | "set" => setOptions arguments
      | "shift" =>
        let count ← number 1
        if frame.arguments.length < count then
          Run.complainHere "shift: can't shift that many"
          throw (.exited 2)
        Run.modifyFrame fun frame => { frame with arguments := frame.arguments.drop count }
      | "read" => readLine arguments
      | "eval" => text fuel (" ".intercalate arguments)
      | "." =>
        let path := arguments.headD ""
        match (← Run.files).read frame.directory path with
        | .ok bytes => text fuel (Text.Utf8.decodeLossy bytes)
        | .error _ =>
          Run.complainHere (".: cannot open " ++ path ++ ": No such file")
          throw (.exited 2)
      | "trap" =>
        match arguments with
        | action :: signals =>
          for signal in signals do
            let key := trapName signal
            Run.modifyFrame fun frame =>
              let others := frame.traps.filter (·.1 ≠ key)
              { frame with traps := if action = "-" then others else (key, action) :: others }
        | [] => pure ()
      | "kill" => kill fuel arguments
      | "command" =>
        match arguments with
        | "-v" :: program :: _ =>
          match ← programPath program with
          | .ok path => Run.print (path ++ "\n")
          | .error _ => Run.setStatus 127
        | program :: rest => call fuel program rest
        | [] => pure ()
      | _ =>
        match Utility.find? name Utility.commands with
        | some utility => Run.setStatus (← utility arguments)
        | none =>
          match ← spawn true fuel name arguments with
          | .ok status => Run.setStatus (statusCode status)
          | .error e =>
            if e = .denied then
              Run.complainHere (name ++ ": Permission denied")
              Run.setStatus 126
            else
              Run.complainHere (name ++ ": not found")
              Run.setStatus 127
termination_by structural fuel => fuel

/-- Sends a signal to processes. -/
def kill : Nat → List String → Run Unit
  | 0, _ => throw .endless
  | fuel + 1, arguments => do
    match killArguments arguments with
    | (none, _) =>
      Run.complainHere "kill: invalid signal"
      Run.setStatus 2
    | (some signal, targets) =>
      for target in targets do
        let frame ← Run.frame
        let state ← get
        match readNat? target with
        | none =>
          Run.complainHere ("kill: Illegal number: " ++ target)
          Run.setStatus 2
        | some pid =>
          if pid = frame.pid then
            match frame.traps.find? (·.1 == toString signal) with
            | some (_, action) => text fuel action
            | none =>
              unless signal = 0 || harmlessSignals.contains signal do throw (.killed pid signal)
          else if pid = state.shared.world.pid then
            let request : Option ShutdownSignal :=
              if signal = 2 then some .interrupt else if signal = 15 then some .terminate else none
            if let some request := request then
              Run.modifyShared fun shared =>
                { shared with requests := (shared.elapsed, request) :: shared.requests }
          else if pid = frame.parent then
            unless signal = 0 do throw (.killed pid signal)
          else
            Run.complainHere "kill: No such process"
            Run.setStatus 1
termination_by structural fuel => fuel

/-- Runs the commands of a text in the running shell. -/
def text : Nat → String → Run Unit
  | 0, _ => throw .endless
  | fuel + 1, source => do
    let script := Script.ofText source
    let before := (← Run.frame).lineEnds
    Run.modifyFrame fun frame => { frame with lineEnds := script.lineEnds }
    evaluate false fuel (.sequence script.commands)
    if let some fault := script.fault then
      Run.complainAt 0 ("Syntax error: " ++ fault)
      throw (.exited 2)
    Run.modifyFrame fun frame => { frame with lineEnds := before }
termination_by structural fuel => fuel

/-- Runs a text as a script of its own, and what was to be done at its end. -/
def script : Nat → String → Run Nat
  | 0, _ => throw .endless
  | fuel + 1, source => do
    let code ← tryCatch (do text fuel source; return (← Run.frame).status) fun
      | .exited code | .returned code => return code
      | .broken _ | .continued _ => return 0
      | stop => throw stop
    match (← Run.frame).traps.find? (·.1 == "EXIT") with
    | none => return code
    | some (_, action) =>
      Run.setStatus code
      tryCatch (do text fuel action; return code) fun
        | .exited code => return code
        | stop => throw stop
termination_by structural fuel => fuel

/-- The shell as a program. -/
def shell : Nat → List String → Run Nat
  | 0, _ => throw .endless
  | fuel + 1, arguments => do
    let (source, operands) ← readArguments arguments
    match source, operands with
    | some source, operands =>
      Run.modifyFrame fun frame =>
        { frame with name := operands.headD "sh", arguments := operands.drop 1 }
      script fuel source
    | none, path :: rest =>
      match (← Run.files).read (← Run.frame).directory path with
      | .ok bytes =>
        Run.modifyFrame fun frame => { frame with name := path, arguments := rest }
        script fuel (Text.Utf8.decodeLossy bytes)
      | .error _ =>
        let _ ← Run.complain ("sh: 0: cannot open " ++ path ++ ": No such file")
        return 2
    | none, [] =>
      let input := (← Run.frame).input
      Run.modifyFrame fun frame => { frame with name := "sh", input := [] }
      script fuel (Text.Utf8.decodeLossy input)
termination_by structural fuel => fuel

/-- Runs a utility as a program. -/
def utility : Nat → String → List String → Run (Except Errno Nat)
  | 0, _, _ => throw .endless
  | fuel + 1, name, arguments => do
    Run.modifyFrame fun frame => { frame with name }
    if name = "sh" then return .ok (← shell fuel arguments)
    else if name = "env" then
      let isSetting := fun (argument : String) => (splitAssignment argument).2.isSome
      let arguments := arguments.filter (· ≠ "-S")
      for setting in arguments.takeWhile isSetting do
        let (variable_, value) := splitAssignment setting
        Run.assign variable_ (value.getD "")
        Run.export_ variable_
      match arguments.dropWhile isSetting with
      | program :: rest =>
        match ← programPath program with
        | .ok path => execute true fuel path rest
        | .error e =>
          let _ ← Run.complain ("env: '" ++ program ++ "': " ++ e.wording)
          return .ok 127
      | [] =>
        for (variable_, value) in ← Run.environment do
          Run.print (variable_ ++ "=" ++ value ++ "\n")
        return .ok 0
    else if name = "kill" then
      kill fuel arguments
      return .ok (← Run.frame).status
    else
      match Utility.find? name Utility.programs with
      | some run => return .ok (← run arguments)
      | none => return .error .notExecutable
termination_by structural fuel => fuel

/-- Executes the file at a path in place of the running program. A file that names no interpreter
    is one, or with `isShell` a script for the shell. -/
def execute (isShell : Bool) : Nat → Path → List String → Run (Except Errno Nat)
  | 0, _, _ => throw .endless
  | fuel + 1, path, arguments => do
    match ← image path with
    | .ok (.utility name) => utility fuel name arguments
    | .ok (.script interpreter argument) =>
      execute false fuel interpreter (argument.toList ++ path :: arguments)
    | .error e =>
      if isShell && e = .notExecutable then return .ok (← shell fuel (path :: arguments))
      else return .error e
termination_by structural fuel => fuel

/-- Runs a program in place of the shell. -/
def replace : Nat → List String → Run Unit
  | 0, _ => throw .endless
  | fuel + 1, texts => do
    let name := texts.headD ""
    let environment ← Run.environment
    let frame ← Run.frame
    match ← programPath name with
    | .ok path =>
      enterProgram frame.pid frame.parent environment
      match ← execute true fuel path (texts.drop 1) with
      | .ok code => throw (.exited code)
      | .error _ => throw (.exited 126)
    | .error e =>
      Run.complainHere
        ("exec: " ++ name ++ ": " ++ (if e = .denied then "Permission denied" else "not found"))
      throw (.exited (if e = .denied then 126 else 127))
termination_by structural fuel => fuel

/-- Runs a program as a process of its own. -/
def spawn (isShell : Bool) : Nat → String → List String → Run (Except Errno ExitStatus)
  | 0, _, _ => throw .endless
  | fuel + 1, program, arguments => do
    match ← programPath program with
    | .error e => return .error e
    | .ok path =>
      let environment ← Run.environment
      let parent := (← Run.frame).pid
      let pid := (← get).shared.world.nextPid
      Run.modifyShared fun shared =>
        { shared with world := { shared.world with nextPid := pid + 1 } }
      Run.isolated do
        enterProgram pid parent environment
        if let some e ← refusal 5 path then
          unless isShell && e = .notExecutable do return .error e
        Run.pass 1
        let status ← asProgram pid do
          match ← execute isShell fuel path arguments with
          | .ok code => return code
          | .error _ => return 126
        return .ok status
termination_by structural fuel => fuel

end

end Evaluation

end Pipewright.Shell
