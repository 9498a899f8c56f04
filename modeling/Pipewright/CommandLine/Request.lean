import Pipewright.CommandLine.Grammar
import Pipewright.Project.Options

set_option autoImplicit false

/-! # Requests on the command line

`Request.ofArguments?` reads the command line of the tool: options of the tool itself, which may
stand before and behind the command's name, and the command with its own options. `parsePin?` reads
a pin, which is an import path and a revision with an equals sign between them. -/

namespace Pipewright.CommandLine

/-- The import path in front of the first equals sign, and the revision behind it. -/
def parsePin? (text : String) : Option (String × String) :=
  let cs := text.toList
  match cs.dropWhile (· ≠ '=') with
  | [] => none
  | _ :: revision =>
    let package := cs.takeWhile (· ≠ '=')
    if package = [] || revision = [] then none
    else some (String.ofList package, String.ofList revision)

/-- The complaint about a text that is no pin. -/
def pinComplaint? (text : String) : Option String :=
  match parsePin? text with
  | some _ => none
  | none => some ("expected <import path>=<revision>, got '" ++ text ++ "'")

/-- The options of the tool itself. -/
def toolOpts : List Opt := [
  ⟨"tool-config", none, .single "TOOL_CONFIG" .path, false⟩,
  ⟨"verbose", some 'v', .count, false⟩]

/-- The options of every command. -/
def resolveOpts : List Opt := [
  ⟨"config", some 'c', .single "CONFIG" .path, true⟩,
  ⟨"source", some 's', .repeated "SOURCES" .path, true⟩,
  ⟨"workspace", some 'w', .single "WORKSPACE" .path, false⟩]

/-- The options of the commands that make projects. -/
def projectOpts : List Opt := [
  ⟨"template", some 't', .single "TEMPLATE" .text, false⟩,
  ⟨"name", some 'n', .single "NAME" .path, true⟩,
  ⟨"force", some 'f', .flag, false⟩,
  ⟨"get", some 'g', .flag, false⟩,
  ⟨"update", some 'u', .flag, false⟩,
  ⟨"revision", some 'r', .repeated "REVISIONS" (.tested pinComplaint?), false⟩,
  ⟨"args", some 'a', .single "ARGS" .text, false⟩]

/-- The template of a project that names none. -/
def defaultTemplate : String := "classic"

/-- What every command works on. -/
structure ResolveRequest where
  config : Path
  sources : List Path
  workspace : Option Path
  deriving DecidableEq, Repr

/-- What the commands that make projects work on. -/
structure ProjectRequest where
  resolve : ResolveRequest
  template : String
  name : Path
  force : Bool
  get : Bool
  update : Bool
  pins : List (String × String)
  arguments : Option String
  deriving DecidableEq, Repr

/-- The commands. -/
inductive Command where
  | create (request : ProjectRequest)
  | run (request : ProjectRequest)
  | resolve (request : ResolveRequest)
  deriving DecidableEq, Repr

/-- A request. -/
structure Request where
  settingsFile : Option Path
  verbosity : Nat
  command : Command
  deriving DecidableEq, Repr

namespace Request

/-- The names of the commands. -/
def commandNames : List String := ["create", "run", "resolve", "help"]

def toolLevel : Level := ⟨toolOpts, commandNames, true⟩

/-- The level of a command. -/
def commandLevel (name : String) : Level :=
  ⟨(if name = "resolve" then resolveOpts else resolveOpts ++ projectOpts) ++ toolOpts, [], false⟩

def resolveRequest (given : Given) : ResolveRequest :=
  { config := (given.get? "config").getD ""
    sources := given.all "source"
    workspace := given.get? "workspace" }

def projectRequest (given : Given) : ProjectRequest :=
  { resolve := resolveRequest given
    template := (given.get? "template").getD defaultTemplate
    name := (given.get? "name").getD ""
    force := given.has "force"
    get := given.has "get"
    update := given.has "update"
    pins := (given.all "revision").filterMap parsePin?
    arguments := given.get? "args" }

/-- What is asked for by arguments behind the name of the command that gives help. -/
def helpHalt (names : List String) : Halt :=
  match names with
  | [] => .help
  | name :: _ => if commandNames.contains name then .help else .usage (.unknownCommand name)

/-- Reads a command line; what stands behind the command's name counts more than what stands before
    it. -/
def ofArguments? (arguments : List String) : Except Halt Request := do
  let (outer, rest) ← walk toolLevel false arguments .empty
  match rest with
  | none => throw (.usage (if outer.values.isEmpty then .noArguments else .noCommand))
  | some (name, rest) =>
    if name = "help" then throw (helpHalt rest)
    let inner ← readAll (commandLevel name) rest
    let command :=
      if name = "create" then Command.create (projectRequest inner)
      else if name = "run" then .run (projectRequest inner)
      else .resolve (resolveRequest inner)
    return {
      settingsFile := (inner.get? "tool-config").or (outer.get? "tool-config")
      verbosity :=
        ((if inner.has "verbose" then inner else outer).all "verbose").length
      command }

end Request

/-- The options that a request for a project stands for. -/
def ProjectRequest.options (request : ProjectRequest) (workspace : Path) : CreateOptions :=
  { workspace
    sources := request.resolve.sources
    templateName := request.template
    projectPath := request.name
    forceWrite := request.force
    getPackages := request.get
    updatePackages := request.update
    pins := Dictionary.ofList request.pins }

/-! ## Wording -/

/-- The name of the tool. -/
def toolName : String := "spirit-tool"

/-- What the tool is for. -/
def purpose : String := "Resolve, render, build and run spirit pipeline projects"

/-- The wording of a fault, by lines. -/
def UsageFault.lines : UsageFault → List String
  | .noArguments => [purpose]
  | .noCommand =>
    ["error: '" ++ toolName ++ "' requires a subcommand but one was not provided",
      "  [subcommands: " ++ ", ".intercalate Request.commandNames ++ "]"]
  | .unknownCommand name => ["error: unrecognized subcommand '" ++ name ++ "'"]
  | .unexpected argument => ["error: unexpected argument '" ++ argument ++ "' found"]
  | .missingValue opt =>
    ["error: a value is required for '" ++ opt ++ "' but none was supplied"]
  | .invalidValue value opt complaint =>
    ["error: invalid value '" ++ value ++ "' for '" ++ opt ++ "': " ++ complaint]
  | .unneededValue value opt =>
    ["error: unexpected value '" ++ value ++ "' for '" ++ opt ++ "' found; no more were expected"]
  | .repeatedOption opt => ["error: the argument '" ++ opt ++ "' cannot be used multiple times"]
  | .missingOptions opts =>
    "error: the following required arguments were not provided:" :: opts.map ("  " ++ ·)

/-- How the tool is used. -/
def usageLine : String := "Usage: " ++ toolName ++ " [OPTIONS] <COMMAND>"

end Pipewright.CommandLine
