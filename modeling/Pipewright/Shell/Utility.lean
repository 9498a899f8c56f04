import Pipewright.Decimal.Reading
import Pipewright.Shell.Format
import Pipewright.Shell.State

set_option autoImplicit false

/-! # Utilities

The programs that scripts can call and that start no others. Each takes its arguments and gives its
exit status.

* `Utility.run?` finds a utility by its name.
* `condition` decides the conditions of `test`. -/

namespace Pipewright.Shell

/-- The number of a signal, by its name with or without `SIG`, or by its number. -/
def signalNumber? (name : String) : Option Nat :=
  match readNat? name with
  | some n => some n
  | none => (ExitStatus.signalNames.find? fun (_, known) =>
      known = name || known = "SIG" ++ name).map (·.1)

namespace Utility

/-- The node that a path names. -/
def stat (path : Path) : Run (Except Errno Node) := do
  return (← Run.files).stat (← Run.frame).directory path

/-- The options of a utility, as letters, and its operands. -/
def splitOptions : List String → List Char × List String
  | [] => ([], [])
  | "--" :: rest => ([], rest)
  | first :: rest =>
    match first.toList with
    | '-' :: c :: letters =>
      let (more, operands) := splitOptions rest
      (c :: letters ++ more, operands)
    | _ => ([], first :: rest)

/-- Does something for each operand; the status is the greatest. -/
def forAll (action : String → Run Nat) : List String → Run Nat
  | [] => return 0
  | first :: rest => do
    let a ← action first
    let b ← forAll action rest
    return max a b

/-! ## Conditions -/

/-- Whether a node has a property that a letter asks for. -/
def hasProperty (letter : String) (node : Except Errno Node) : Bool :=
  match letter, node with
  | "-e", .ok _ | "-a", .ok _ => true
  | "-f", .ok (.file ..) | "-d", .ok .directory => true
  | "-r", .ok _ | "-w", .ok _ => true
  | "-c", .ok .device => true
  | "-s", .ok (.file content _) => !content.isEmpty
  | "-s", .ok .directory => true
  | "-x", .ok (.file _ isExecutable) => isExecutable
  | "-x", .ok .directory => true
  | _, _ => false

/-- A condition with one operand. -/
def unary? (operator operand : String) : Run (Option Bool) := do
  if operator = "-n" then return some (operand ≠ "")
  else if operator = "-z" then return some (operand = "")
  else if operator = "-t" then return some false
  else if operator = "-L" || operator = "-h" then
    match (← Run.files).locate false (← Run.frame).directory operand with
    | .ok (_, some (.link _)) => return some true
    | _ => return some false
  else if ["-e", "-a", "-f", "-d", "-r", "-w", "-c", "-s", "-x"].contains operator then
    return some (hasProperty operator (← stat operand))
  else return none

/-- A condition with two operands; `none` for an operand that is no number. -/
def binary? (a operator b : String) : Option (Option Bool) :=
  let compare := fun (test : Int → Int → Bool) =>
    match readInt? a, readInt? b with
    | some m, some n => some (some (test m n))
    | _, _ => some none
  match operator with
  | "=" | "==" => some (some (a = b))
  | "!=" => some (some (a ≠ b))
  | "<" => some (some (a < b))
  | ">" => some (some (b < a))
  | "-eq" => compare fun m n => m = n
  | "-ne" => compare fun m n => m ≠ n
  | "-lt" => compare fun m n => m < n
  | "-le" => compare fun m n => m ≤ n
  | "-gt" => compare fun m n => n < m
  | "-ge" => compare fun m n => n ≤ m
  | _ => none

/-- The arguments before and behind the last occurrence of an operator, which is not the first. -/
def splitAt? (operator : String) (arguments : List String) : Option (List String × List String) :=
  match arguments with
  | [] | [_] => none
  | first :: second :: rest =>
    match splitAt? operator (second :: rest) with
    | some (before, behind) => some (first :: before, behind)
    | none => if second = operator && !rest.isEmpty then some ([first], rest) else none

/-- Decides a condition; `none` if it has no meaning. -/
def condition : Nat → List String → Run (Option Bool)
  | 0, _ => return none
  | fuel + 1, arguments => do
    match arguments with
    | [] => return some false
    | [a] => return some (a ≠ "")
    | [a, b] =>
      if a = "!" then return some (b = "") else unary? a b
    | [a, b, c] =>
      match binary? a b c with
      | some result => return result
      | none =>
        if a = "!" then return (← condition fuel [b, c]).map (!·)
        else if a = "(" && c = ")" then condition fuel [b]
        else if b = "-a" then return some (a ≠ "" && c ≠ "")
        else if b = "-o" then return some (a ≠ "" || c ≠ "")
        else return none
    | arguments =>
      match splitAt? "-o" arguments with
      | some (before, behind) =>
        match ← condition fuel before, ← condition fuel behind with
        | some a, some b => return some (a || b)
        | _, _ => return none
      | none =>
        match splitAt? "-a" arguments with
        | some (before, behind) =>
          match ← condition fuel before, ← condition fuel behind with
          | some a, some b => return some (a && b)
          | _, _ => return none
        | none =>
          match arguments with
          | "!" :: rest => return (← condition fuel rest).map (!·)
          | _ => return none

/-- Tests a condition, called by the given name. -/
def test (name : String) (arguments : List String) : Run Nat := do
  match ← condition (arguments.length + 1) arguments with
  | some true => return 0
  | some false => return 1
  | none =>
    Run.complainHere (name ++ ": " ++ arguments.headD "" ++ ": unexpected operator")
    return 2

/-- Tests a condition in brackets. -/
def bracketed (arguments : List String) : Run Nat := do
  if arguments.getLast? = some "]" then test "[" arguments.dropLast
  else
    Run.complainHere "[: missing ]"
    return 2

/-! ## Files -/

/-- The bytes of an operand; a dash is the input. -/
def content? (path : String) : Run (Except Errno Bytes) := do
  if path = "-" then
    let bytes := (← Run.frame).input
    Run.modifyFrame fun frame => { frame with input := [] }
    return .ok bytes
  else return (← Run.files).read (← Run.frame).directory path

/-- Works on the bytes of each operand, or on the input without operands. -/
def eachContent (name : String) (operands : List String) (action : Bytes → Run Unit) : Run Nat :=
  forAll (fun path => do
    match ← content? path with
    | .ok bytes =>
      action bytes
      return 0
    | .error e => Run.complain (name ++ ": " ++ path ++ ": " ++ e.wording))
    (if operands.isEmpty then ["-"] else operands)

def cat (arguments : List String) : Run Nat :=
  eachContent "cat" (splitOptions arguments).2 (Run.write 1)

/-- Lines with their ends. -/
def byteLines : Bytes → List Bytes
  | [] => []
  | b :: rest =>
    if b = 10 then [b] :: byteLines rest
    else
      match byteLines rest with
      | [] => [[b]]
      | line :: more => (b :: line) :: more

/-- The count of lines that is asked for, and the operands. -/
def lineCount : List String → Nat × List String
  | "-n" :: count :: rest => ((readNat? count).getD 10, rest)
  | first :: rest =>
    match first.toList with
    | '-' :: 'n' :: digits => (digitsNat digits, rest)
    | '-' :: digits => (digitsNat digits, rest)
    | _ => (10, first :: rest)
  | [] => (10, [])

def head (arguments : List String) : Run Nat :=
  let (count, operands) := lineCount arguments
  eachContent "head" operands fun bytes => Run.write 1 ((byteLines bytes).take count).flatten

def tail (arguments : List String) : Run Nat :=
  let (count, operands) := lineCount arguments
  eachContent "tail" operands fun bytes =>
    let lines := byteLines bytes
    Run.write 1 (lines.drop (lines.length - count)).flatten

def countWords (arguments : List String) : Run Nat :=
  let (options, operands) := splitOptions arguments
  eachContent "wc" operands fun bytes => do
    let count :=
      if options.contains 'c' then bytes.length else (bytes.filter (· = 10)).length
    let label := if operands.isEmpty then "" else " " ++ operands.headD ""
    Run.print (toString count ++ label ++ "\n")

def tee (arguments : List String) : Run Nat := do
  let (options, operands) := splitOptions arguments
  let bytes := (← Run.frame).input
  Run.modifyFrame fun frame => { frame with input := [] }
  Run.write 1 bytes
  forAll (fun path => do
    let files ← Run.files
    let directory := (← Run.frame).directory
    let old := if options.contains 'a' then ((files.read directory path).toOption.getD []) else []
    match files.write directory path (old ++ bytes) with
    | .ok files =>
      Run.setFiles files
      return 0
    | .error e => Run.complain ("tee: " ++ path ++ ": " ++ e.wording)) operands

def makeDirectory (arguments : List String) : Run Nat := do
  let (options, operands) := splitOptions arguments
  forAll (fun path => do
    let files ← Run.files
    let directory := (← Run.frame).directory
    let (result, files) :=
      if options.contains 'p' then files.makeDirectories directory path
      else
        match files.makeDirectory directory path with
        | .ok files => (.ok (), files)
        | .error e => (.error e, files)
    Run.setFiles files
    match result with
    | .ok () => return 0
    | .error e =>
      Run.complain ("mkdir: cannot create directory '" ++ path ++ "': " ++ e.wording)) operands

def remove (arguments : List String) : Run Nat := do
  let (options, operands) := splitOptions arguments
  let isForced := options.contains 'f'
  let isDeep := options.contains 'r' || options.contains 'R'
  forAll (fun path => do
    let files ← Run.files
    let directory := (← Run.frame).directory
    let refuse := fun (e : Errno) =>
      Run.complain ("rm: cannot remove '" ++ path ++ "': " ++ e.wording)
    match files.locate false directory path with
    | .error e => if isForced then return 0 else refuse e
    | .ok (_, none) => if isForced then return 0 else refuse .absent
    | .ok (_, some .directory) =>
      if isDeep then
        Run.setFiles (files.remove directory path)
        return 0
      else refuse .isDirectory
    | .ok (_, some _) =>
      Run.setFiles (files.remove directory path)
      return 0) operands

def removeDirectory (arguments : List String) : Run Nat :=
  forAll (fun path => do
    let files ← Run.files
    match files.locate false (← Run.frame).directory path with
    | .ok (location, some .directory) =>
      if files.entries.any fun entry => location.isPrefixOf entry.1 && entry.1 ≠ location then
        Run.complain ("rmdir: failed to remove '" ++ path ++ "': Directory not empty")
      else
        Run.setFiles (files.erase location)
        return 0
    | _ =>
      Run.complain ("rmdir: failed to remove '" ++ path ++ "': " ++ Errno.absent.wording))
    (splitOptions arguments).2

def touch (arguments : List String) : Run Nat :=
  forAll (fun path => do
    match ← stat path with
    | .ok _ => return 0
    | .error _ =>
      match (← Run.files).write (← Run.frame).directory path [] with
      | .ok files =>
        Run.setFiles files
        return 0
      | .error e => Run.complain ("touch: cannot touch '" ++ path ++ "': " ++ e.wording))
    (splitOptions arguments).2

/-- Whether a mode makes a file a program; nothing, if the mode leaves that as it is. -/
def executableBy? (mode : String) : Option Bool :=
  let cs := mode.toList
  if cs.all Char.isDigit then
    some ((cs.reverse.drop 2).head?.any fun c => c.toNat % 2 = 1)
  else if cs.contains 'x' then some (!cs.contains '-')
  else if cs.contains '=' then some false
  else none

def changeMode (arguments : List String) : Run Nat := do
  match arguments.filter (· ≠ "-R") with
  | [] => Run.complain "chmod: missing operand"
  | mode :: operands =>
    forAll (fun path => do
      let files ← Run.files
      match files.locate true (← Run.frame).directory path with
      | .ok (location, some (.file content isExecutable)) =>
        let isExecutable := (executableBy? mode).getD isExecutable
        Run.setFiles (files.put location (.file content isExecutable))
        return 0
      | .ok (_, some _) => return 0
      | _ => Run.complain ("chmod: cannot access '" ++ path ++ "': " ++ Errno.absent.wording))
      operands

def link (arguments : List String) : Run Nat := do
  let (options, operands) := splitOptions arguments
  match operands with
  | [target, path] =>
    let files ← Run.files
    let directory := (← Run.frame).directory
    let files := if options.contains 'f' then files.remove directory path else files
    match files.locate false directory path with
    | .ok (location, none) =>
      if options.contains 's' then
        Run.setFiles (files.put location (.link target))
        return 0
      else
        match files.stat directory target with
        | .ok node =>
          Run.setFiles (files.put location node)
          return 0
        | .error e => Run.complain ("ln: failed to access '" ++ target ++ "': " ++ e.wording)
    | .ok (_, some _) =>
      Run.complain ("ln: failed to create symbolic link '" ++ path ++ "': File exists")
    | .error e =>
      Run.complain ("ln: failed to create symbolic link '" ++ path ++ "': " ++ e.wording)
  | _ => Run.complain "ln: missing file operand"

/-- Copies what stands at a location, with everything below it. -/
def copyTree (files : FileSystem) (source target : Location) : FileSystem :=
  let copied := files.entries.filter fun entry => source.isPrefixOf entry.1
  copied.foldl (fun files (location, node) =>
    files.put (target ++ location.drop source.length) node) files

/-- Copies or moves operands to the last of them. -/
def transfer (name : String) (isMove : Bool) (arguments : List String) : Run Nat := do
  let (options, operands) := splitOptions arguments
  let isDeep := isMove || options.contains 'r' || options.contains 'R' || options.contains 'a'
  match operands.getLast? with
  | none => Run.complain (name ++ ": missing file operand")
  | some last =>
    forAll (fun path => do
      let files ← Run.files
      let directory := (← Run.frame).directory
      let target :=
        if files.isDirectory directory last then Path.join last ((Path.fileName? path).getD path)
        else last
      match files.locate (!isMove) directory path, files.locate true directory target with
      | .ok (_, none), _ | .error _, _ =>
        Run.complain (name ++ ": cannot stat '" ++ path ++ "': " ++ Errno.absent.wording)
      | .ok (source, some node), .ok (location, _) =>
        if node = .directory && !isDeep then
          Run.complain (name ++ ": -r not specified; omitting directory '" ++ path ++ "'")
        else
          let copied := copyTree files source location
          Run.setFiles (if isMove && source ≠ location then copied.erase source else copied)
          return 0
      | _, .error e =>
        Run.complain (name ++ ": cannot create regular file '" ++ target ++ "': " ++ e.wording))
      operands.dropLast

/-- The names in a directory, in order. -/
def namesIn (files : FileSystem) (location : Location) : List String :=
  let names := files.entries.filterMap fun entry =>
    if entry.1.dropLast = location && entry.1 ≠ [] then entry.1.getLast? else none
  names.mergeSort fun a b => a ≤ b

def listFiles (arguments : List String) : Run Nat := do
  let (options, operands) := splitOptions arguments
  forAll (fun path => do
    let files ← Run.files
    match files.locate true (← Run.frame).directory path with
    | .ok (location, some .directory) =>
      let names := namesIn files location
      let names :=
        if options.contains 'a' || options.contains 'A' then names
        else names.filter fun name => name.toList.head? ≠ some '.'
      Run.print (String.join (names.map (· ++ "\n")))
      return 0
    | .ok (_, some _) =>
      Run.print (path ++ "\n")
      return 0
    | _ =>
      let _ ← Run.complain ("ls: cannot access '" ++ path ++ "': " ++ Errno.absent.wording)
      return 2) (if operands.isEmpty then ["."] else operands)

/-! ## Other utilities -/

/-- Milliseconds of a number of seconds. -/
def milliseconds? (text : String) : Option Nat :=
  let cs := text.toList
  let (unit, cs) :=
    match cs.reverse with
    | 's' :: rest => (1, rest.reverse)
    | 'm' :: rest => (60, rest.reverse)
    | 'h' :: rest => (3600, rest.reverse)
    | 'd' :: rest => (86400, rest.reverse)
    | _ => (1, cs)
  let whole := cs.takeWhile Char.isDigit
  match cs.dropWhile Char.isDigit with
  | [] => if whole = [] then none else some (digitsNat whole * 1000 * unit)
  | '.' :: fraction =>
    if fraction.all Char.isDigit then
      let thousandths := digitsNat ((fraction ++ ['0', '0', '0']).take 3)
      some ((digitsNat whole * 1000 + thousandths) * unit)
    else none
  | _ => none

def sleep (arguments : List String) : Run Nat := do
  if arguments = ["infinity"] then
    Run.pass (Run.horizon + 1)
  match arguments.mapM milliseconds? with
  | some (time :: more) =>
    Run.pass (more.foldl (· + ·) time)
    return 0
  | _ => Run.complain "sleep: invalid time interval"

/-- The last name of a path. -/
def baseName (arguments : List String) : Run Nat := do
  match arguments with
  | path :: rest =>
    let name := ((Path.segments path).getLast?).getD "/"
    let ending := (rest.headD "").toList
    let cs := name.toList
    let cs :=
      if ending.isSuffixOf cs && ending.length < cs.length then cs.take (cs.length - ending.length)
      else cs
    Run.print (String.ofList cs ++ "\n")
    return 0
  | [] => Run.complain "basename: missing operand"

/-- The path without its last name. -/
def directoryName (arguments : List String) : Run Nat := do
  match arguments with
  | [path] =>
    let parent := (Path.parent? path).getD "/"
    Run.print ((if parent = "" then "." else parent) ++ "\n")
    return 0
  | _ => Run.complain "dirname: missing operand"

def sequence (arguments : List String) : Run Nat := do
  match arguments.mapM readNat? with
  | some [last] =>
    Run.print (String.join ((List.range last).map fun n => toString (n + 1) ++ "\n"))
    return 0
  | some [first, last] =>
    Run.print (String.join ((List.range (last + 1 - first)).map fun n =>
      toString (first + n) ++ "\n"))
    return 0
  | _ => Run.complain "seq: invalid argument"

def workingDirectory : Run Nat := do
  Run.print (FileSystem.locationPath (← Run.frame).directory ++ "\n")
  return 0

/-- The utilities that are programs of their own. -/
def programs : List (String × (List String → Run Nat)) := [
  ("true", fun _ => return 0), ("false", fun _ => return 1),
  ("echo", fun arguments => do Run.write 1 (Format.plainEcho arguments); return 0),
  ("pwd", fun _ => workingDirectory), ("cat", cat), ("head", head), ("tail", tail),
  ("wc", countWords), ("tee", tee), ("mkdir", makeDirectory), ("rm", remove),
  ("rmdir", removeDirectory), ("touch", touch), ("chmod", changeMode), ("ln", link),
  ("cp", transfer "cp" false), ("mv", transfer "mv" true), ("ls", listFiles), ("sleep", sleep),
  ("basename", baseName), ("dirname", directoryName), ("seq", sequence),
  ("printf", fun arguments => do
    Run.write 1 (Format.printf (arguments.headD "") (arguments.drop 1))
    return 0),
  ("test", test "test"), ("[", bracketed)]

/-- The utilities that are commands of the shell. -/
def commands : List (String × (List String → Run Nat)) := [
  (":", fun _ => return 0), ("true", fun _ => return 0), ("false", fun _ => return 1),
  ("echo", fun arguments => do Run.write 1 (Format.echo arguments); return 0),
  ("printf", fun arguments => do
    Run.write 1 (Format.printf (arguments.headD "") (arguments.drop 1))
    return 0),
  ("pwd", fun _ => workingDirectory), ("test", test "test"),
  ("[", bracketed), ("umask", fun _ => return 0),
  ("wait", fun _ => return 0), ("times", fun _ => return 0), ("hash", fun _ => return 0)]

/-- A utility by its name. -/
def find? (name : String) (utilities : List (String × (List String → Run Nat))) :
    Option (List String → Run Nat) :=
  (utilities.find? (·.1 == name)).map (·.2)

end Utility

end Pipewright.Shell
