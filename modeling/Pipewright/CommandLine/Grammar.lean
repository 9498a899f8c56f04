set_option autoImplicit false

/-! # Options and commands

A command line is read from left to right. An `Opt` has a long name and may have a letter; it is a
flag, a count, or takes a value, once or repeatedly. A value is either attached to the option or
the next argument, unless that looks like an option. What cannot be read is a `UsageFault`.

* `walk` reads the arguments of one level, up to the name of a command.
* `settle` gives an option the value that was read for it; faults in a value show only then. -/

namespace Pipewright.CommandLine

/-- The rule for the values of an option. -/
inductive Rule where
  /-- Any text but the empty one. -/
  | path
  | text
  /-- A text that a test accepts; else the complaint about it. -/
  | tested (complaint? : String → Option String)

/-- What an option takes. -/
inductive Arity where
  | flag
  | count
  | single (label : String) (rule : Rule)
  | repeated (label : String) (rule : Rule)

/-- An option. -/
structure Opt where
  name : String
  letter : Option Char
  arity : Arity
  isRequired : Bool

/-- An option in messages. -/
def Opt.display (opt : Opt) : String :=
  "--" ++ opt.name ++
    match opt.arity with
    | .flag => ""
    | .count => "..."
    | .single label _ | .repeated label _ => " <" ++ label ++ ">"

/-- Why a command line cannot be read. -/
inductive UsageFault where
  | noArguments
  | noCommand
  | unknownCommand (name : String)
  | unexpected (argument : String)
  | missingValue (opt : String)
  | invalidValue (value opt complaint : String)
  | unneededValue (value opt : String)
  | repeatedOption (opt : String)
  | missingOptions (opts : List String)
  deriving DecidableEq, Repr

/-- Why reading ends early. -/
inductive Halt where
  | usage (fault : UsageFault)
  | version
  | help
  deriving DecidableEq, Repr

/-- What has been read of a level. -/
structure Given where
  /-- The options in their order, with their values. -/
  values : List (String × String)
  /-- The option that was read last, if it takes a value, and the value. -/
  pending : Option (Opt × Option String)

namespace Given

def empty : Given := ⟨[], none⟩

/-- Whether an option was given. -/
def has (name : String) (given : Given) : Bool := given.values.any (·.1 == name)

/-- The values of an option, in their order. -/
def all (name : String) (given : Given) : List String :=
  given.values.filterMap fun (other, value) => if other = name then some value else none

/-- The value of an option that is given once at most. -/
def get? (name : String) (given : Given) : Option String := (given.all name).head?

/-- Adds an option. -/
def add (opt : Opt) (value : String) (given : Given) : Given :=
  { given with values := given.values ++ [(opt.name, value)] }

end Given

/-- What is wrong with a value. -/
def Rule.fault? (opt value : String) : Rule → Option UsageFault
  | .path => if value = "" then some (.missingValue opt) else none
  | .text => none
  | .tested complaint? => (complaint? value).map (.invalidValue value opt)

/-- Gives an option a value. -/
def take (opt : Opt) (value : String) (given : Given) : Except Halt Given :=
  match opt.arity with
  | .count => .ok (given.add opt value)
  | .flag =>
    if given.has opt.name then .error (.usage (.repeatedOption opt.display))
    else .ok (given.add opt value)
  | .single _ rule =>
    if given.has opt.name then .error (.usage (.repeatedOption opt.display))
    else
      match rule.fault? opt.display value with
      | some fault => .error (.usage fault)
      | none => .ok (given.add opt value)
  | .repeated _ rule =>
    match rule.fault? opt.display value with
    | some fault => .error (.usage fault)
    | none => .ok (given.add opt value)

/-- Gives the option that was read last the value that was read for it. -/
def settle (given : Given) : Except Halt Given :=
  match given.pending with
  | none => .ok given
  | some (opt, none) => .error (.usage (.missingValue opt.display))
  | some (opt, some value) => take opt value { given with pending := none }

/-- Takes a flag or an attached value at once. -/
def takeNow (opt : Opt) (value : String) (given : Given) : Except Halt Given := do
  take opt value (← settle given)

/-- Leaves an option to wait for its value. -/
def await (opt : Opt) (given : Given) : Except Halt Given := do
  let given ← settle given
  return { given with pending := some (opt, none) }

/-- A level: its options, its commands, and whether it tells the version. -/
structure Level where
  opts : List Opt
  commands : List String
  tellsVersion : Bool

namespace Level

def byName? (level : Level) (name : String) : Option Opt := level.opts.find? (·.name == name)

def byLetter? (level : Level) (letter : Char) : Option Opt :=
  level.opts.find? (·.letter == some letter)

end Level

def takesValue (opt : Opt) : Bool :=
  match opt.arity with
  | .single .. | .repeated .. => true
  | _ => false

/-- A long option, without its dashes, and the value that is attached to it. -/
def splitLong (cs : List Char) : String × Option String :=
  match cs.dropWhile (· ≠ '=') with
  | [] => (String.ofList cs, none)
  | _ :: value => (String.ofList (cs.takeWhile (· ≠ '=')), some (String.ofList value))

/-- Reads a long option. -/
def readLong (level : Level) (cs : List Char) (given : Given) : Except Halt Given :=
  let (name, attached) := splitLong cs
  match level.byName? name with
  | some opt =>
    match attached with
    | some value =>
      if takesValue opt then takeNow opt value given
      else .error (.usage (.unneededValue value opt.display))
    | none => if takesValue opt then await opt given else takeNow opt "" given
  | none =>
    if name = "help" then .error .help
    else if name = "version" && level.tellsVersion then .error .version
    else .error (.usage (.unexpected ("--" ++ name)))

/-- Reads a cluster of letters; the first that takes a value takes the rest as its value. -/
def readLetters (level : Level) : List Char → Given → Except Halt Given
  | [], given => .ok given
  | c :: rest, given =>
    match level.byLetter? c with
    | some opt =>
      if takesValue opt then
        match rest with
        | [] => await opt given
        | '=' :: value => takeNow opt (String.ofList value) given
        | value => takeNow opt (String.ofList value) given
      else do
        let given ← takeNow opt "" given
        readLetters level rest given
    | none =>
      if c = 'h' then .error .help
      else if c = 'V' && level.tellsVersion then .error .version
      else .error (.usage (.unexpected ("-" ++ String.singleton c)))

/-- An argument that is neither an option nor a value nor the name of a command. -/
def Level.stray (level : Level) (isBehindDashes : Bool) (argument : String) : UsageFault :=
  if level.commands.isEmpty || (isBehindDashes && level.commands.contains argument) then
    .unexpected argument
  else .unknownCommand argument

/-- Whether the option that was read last still waits for its value. -/
def Given.isWaiting (given : Given) : Bool :=
  match given.pending with
  | some (_, none) => true
  | _ => false

/-- Reads the arguments of a level, up to the name of a command. Behind two dashes there are no
    options. -/
def walk (level : Level) (isBehindDashes : Bool) :
    List String → Given → Except Halt (Given × Option (String × List String))
  | [], given => do return (← settle given, none)
  | argument :: rest, given =>
    if isBehindDashes then .error (.usage (level.stray true argument))
    else if !given.isWaiting && level.commands.contains argument then do
      return (← settle given, some (argument, rest))
    else
      match argument.toList with
      | ['-', '-'] => walk level true rest given
      | '-' :: '-' :: cs => do walk level false rest (← readLong level cs given)
      | '-' :: c :: cs => do walk level false rest (← readLetters level (c :: cs) given)
      | _ =>
        match given.pending with
        | some (opt, none) =>
          walk level false rest { given with pending := some (opt, some argument) }
        | _ => .error (.usage (level.stray false argument))

/-- Reads a level without commands, all of whose required options must be given. -/
def readAll (level : Level) (arguments : List String) : Except Halt Given := do
  let (given, _) ← walk level false arguments .empty
  let missing := level.opts.filter fun opt => opt.isRequired && !given.has opt.name
  if missing.isEmpty then return given
  throw (.usage (.missingOptions (missing.map Opt.display)))

end Pipewright.CommandLine
